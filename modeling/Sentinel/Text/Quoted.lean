import Sentinel.Unicode.Class
/-!
# Quoted texts

The form in which values stand in messages and in the audit trail: a text in quotes, with escapes
for quotes, control characters and whatever has no form of its own; a list of such texts in square
brackets; and a value that may be absent.
-/

namespace Sentinel.Text

/-- The hexadecimal digits of a number, most significant first and in lower case. -/
def hexadecimal (n : Nat) : List Char :=
  if n < 16 then [n.digitChar] else hexadecimal (n / 16) ++ [(n % 16).digitChar]

/-- A character inside quotes. A character that cannot be seen, or that extends the one before it,
stands as its code point. -/
def quotedChar (c : Char) : List Char :=
  if c = Char.ofNat 0 then ['\\', '0']
  else if c = '\t' then ['\\', 't']
  else if c = '\r' then ['\\', 'r']
  else if c = '\n' then ['\\', 'n']
  else if c = '\\' then ['\\', '\\']
  else if c = '"' then ['\\', '"']
  else if Unicode.isExtending c || !Unicode.isPrintable c then
    '\\' :: 'u' :: '\x7b' :: (hexadecimal c.toNat ++ ['\x7d'])
  else [c]

def quoted (s : String) : String := String.ofList ('"' :: (s.toList.flatMap quotedChar ++ ['"']))

def quotedList (ss : List String) : String := "[" ++ ", ".intercalate (ss.map quoted) ++ "]"

/-- A value that may be absent. -/
def optional : Option String → String
  | none => "None"
  | some s => "Some(" ++ s ++ ")"

def optionalQuoted (s : Option String) : String := optional (s.map quoted)

def optionalNat (n : Option Nat) : String := optional (n.map natText)

end Sentinel.Text
