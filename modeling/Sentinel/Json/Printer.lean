import Sentinel.Json.Basic
/-!
# Writing JSON

The compact text of a JSON value and its indented text. Quotes, backslashes and the characters
below U+0020 are escaped and nothing else is.
-/

namespace Sentinel.Json

def escaped (c : Char) : List Char :=
  if c = '"' then ['\\', '"']
  else if c = '\\' then ['\\', '\\']
  else if c = '\n' then ['\\', 'n']
  else if c = '\r' then ['\\', 'r']
  else if c = '\t' then ['\\', 't']
  else if c = Char.ofNat 8 then ['\\', 'b']
  else if c = Char.ofNat 12 then ['\\', 'f']
  else if c.toNat < 32 then '\\' :: 'u' :: Text.hexDigits 4 c.toNat
  else [c]

def quoted (s : String) : List Char :=
  '"' :: (s.toList.flatMap escaped ++ ['"'])

def numberText : JsonNumber → List Char
  | .int i => Text.signedDecimal i
  | .real x => x.text

mutual

def chars : Json → List Char
  | .null => "null".toList
  | .bool b => if b then "true".toList else "false".toList
  | .number n => numberText n
  | .string s => quoted s
  | .array items => '[' :: (itemChars items ++ [']'])
  | .object members => '\x7b' :: (memberChars members ++ ['\x7d'])

/-- The items of an array, separated by commas. -/
def itemChars : List Json → List Char
  | [] => []
  | [j] => chars j
  | j :: js => chars j ++ ',' :: itemChars js

def memberChars : List (String × Json) → List Char
  | [] => []
  | [(k, j)] => quoted k ++ ':' :: chars j
  | (k, j) :: ms => quoted k ++ ':' :: (chars j ++ ',' :: memberChars ms)

end

def compact (j : Json) : String := String.ofList j.chars

/-- A new line indented by two blanks a level. -/
def newLine (level : Nat) : List Char := '\n' :: List.replicate (2 * level) ' '

mutual

/-- The characters of the indented text at a level of nesting. -/
def indentedChars (level : Nat) : Json → List Char
  | .array [] => "[]".toList
  | .array items => '[' :: (indentedItems (level + 1) items ++ newLine level ++ [']'])
  | .object [] => ['\x7b', '\x7d']
  | .object members => '\x7b' :: (indentedMembers (level + 1) members ++ newLine level ++ ['\x7d'])
  | j => chars j

/-- The items of an array, each on lines of its own. -/
def indentedItems (level : Nat) : List Json → List Char
  | [] => []
  | [j] => newLine level ++ indentedChars level j
  | j :: js => newLine level ++ indentedChars level j ++ ',' :: indentedItems level js

/-- The members of an object, each on lines of its own. -/
def indentedMembers (level : Nat) : List (String × Json) → List Char
  | [] => []
  | [(k, j)] => newLine level ++ quoted k ++ ':' :: ' ' :: indentedChars level j
  | (k, j) :: ms =>
    newLine level ++ quoted k ++ ':' :: ' ' :: (indentedChars level j ++ ',' :: indentedMembers level ms)

end

/-- The text of a value with every item and member on a line of its own. -/
def indented (j : Json) : String := String.ofList (j.indentedChars 0)

end Sentinel.Json
