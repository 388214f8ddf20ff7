import Sentinel.Json.Basic
/-!
# Reading JSON texts

The syntax of a JSON text as a tree that keeps what a value forgets: the order and repetition of
members, the spelling of numbers and escapes that stand for no character. Readers of records look
at this tree; `toJson?` turns it into a value.
-/

namespace Sentinel

/-- A number as it is written. -/
structure NumberText where
  negative : Bool
  whole : List Char
  fraction : List Char
  exponent : Option Int
deriving DecidableEq, Repr

/-- The syntax tree of a JSON text. A string without text holds an escape that stands for no
character. -/
inductive Document where
  | null
  | bool (b : Bool)
  | number (n : NumberText)
  | string (s : Option String)
  | array (items : List Document)
  | object (members : List (Option String × Document))
deriving Repr

namespace NumberText

/-- Digits are gathered into the significand while it has at most 64 bits; the rest is counted. -/
def gather : Nat → List Char → Nat × Nat
  | s, [] => (s, 0)
  | s, c :: cs =>
    let next := 10 * s + Text.digitValue c
    if next < UInt64.size then gather next cs else (s, (c :: cs).length)

/-- The binary number of a number text, absent where it is too large. -/
def real? (n : NumberText) : Option Decimal.Binary64 :=
  let (s, dropped) := gather 0 n.whole
  let (s, left) := gather s n.fraction
  let taken : Int := n.fraction.length - left
  Decimal.Binary64.ofDecimal? n.negative s (dropped - taken + n.exponent.getD 0)

/-- The integer that is written without fraction and exponent in the range of 64-bit words, signed
or not; minus zero is no integer. -/
def integer? (n : NumberText) : Option Int :=
  if n.fraction.isEmpty && n.exponent.isNone then
    let v := Text.value n.whole
    if n.negative then
      if v = 0 ∨ UInt64.size / 2 < v then none else some (-(v : Int))
    else if v < UInt64.size then some v else none
  else none

/-- The number that is written, absent where it is too large. -/
def toNumber? (n : NumberText) : Option JsonNumber :=
  match n.integer? with
  | some i => some (.int i)
  | none => n.real?.map .real

end NumberText

namespace Document

/-- The characters that may stand between the tokens. -/
def isSpace (c : Char) : Bool := c == ' ' || c == '\n' || c == '\t' || c == '\r'

/-- The text without the blanks in front. -/
def skipSpace (cs : List Char) : List Char := cs.dropWhile isSpace

/-- A part of a string: a character, or a code unit given by an escape. -/
inductive Unit16 where
  | char (c : Char)
  | code (n : Nat)
deriving DecidableEq

def shortEscape? : Char → Option Char
  | '"' => some '"'
  | '\\' => some '\\'
  | '/' => some '/'
  | 'b' => some (Char.ofNat 8)
  | 'f' => some (Char.ofNat 12)
  | 'n' => some '\n'
  | 'r' => some '\r'
  | 't' => some '\t'
  | _ => none

/-- Reads a string up to its closing quote; `acc` holds the parts so far, the last one first. -/
def readUnits (acc : List Unit16) : List Char → Option (List Unit16 × List Char)
  | [] => none
  | '"' :: cs => some (acc.reverse, cs)
  | '\\' :: 'u' :: a :: b :: c :: d :: cs =>
    match Text.hexValue? [a, b, c, d] with
    | some n => readUnits (.code n :: acc) cs
    | none => none
  | '\\' :: e :: cs =>
    match shortEscape? e with
    | some c => readUnits (.char c :: acc) cs
    | none => none
  | c :: cs => if c.toNat < 32 || c == '\\' then none else readUnits (.char c :: acc) cs

/-- The characters of the parts of a string; a surrogate must stand in a pair. -/
def join? (acc : List Char) : List Unit16 → Option (List Char)
  | [] => some acc.reverse
  | .char c :: us => join? (c :: acc) us
  | .code hi :: .code lo :: us =>
    if 0xD800 ≤ hi ∧ hi < 0xDC00 then
      if 0xDC00 ≤ lo ∧ lo < 0xE000 then
        join? (Char.ofNat (0x10000 + (hi - 0xD800) * 0x400 + (lo - 0xDC00)) :: acc) us
      else none
    else if 0xDC00 ≤ hi ∧ hi < 0xE000 then none
    else join? (Char.ofNat hi :: acc) (.code lo :: us)
  | .code n :: us => if 0xD800 ≤ n ∧ n < 0xE000 then none else join? (Char.ofNat n :: acc) us

def readString (cs : List Char) : Option (Option String × List Char) :=
  (readUnits [] cs).map fun (us, rest) => ((join? [] us).map String.ofList, rest)

def readDigits (cs : List Char) : Option (List Char × List Char) :=
  let ds := cs.takeWhile Char.isDigit
  if ds.isEmpty then none else some (ds, cs.dropWhile Char.isDigit)

/-- Reads the whole part of a number: a zero alone, or digits that do not begin with one. -/
def readWhole : List Char → Option (List Char × List Char)
  | '0' :: cs =>
    match cs with
    | c :: _ => if c.isDigit then none else some (['0'], cs)
    | [] => some (['0'], [])
  | cs => readDigits cs

def readFraction : List Char → Option (List Char × List Char)
  | '.' :: cs => readDigits cs
  | cs => some ([], cs)

/-- Reads the digits of an exponent behind its sign. -/
def readExponentDigits (negative : Bool) (cs : List Char) : Option (Option Int × List Char) :=
  (readDigits cs).map fun (ds, rest) =>
    let n : Int := Text.value ds
    (some (if negative then -n else n), rest)

def readExponent : List Char → Option (Option Int × List Char)
  | c :: cs =>
    if c = 'e' ∨ c = 'E' then
      match cs with
      | '-' :: ds => readExponentDigits true ds
      | '+' :: ds => readExponentDigits false ds
      | ds => readExponentDigits false ds
    else some (none, c :: cs)
  | [] => some (none, [])

/-- Reads a number behind its sign. -/
def readNumber (negative : Bool) (cs : List Char) : Option (Document × List Char) := do
  let (whole, cs) ← readWhole cs
  let (fraction, cs) ← readFraction cs
  let (exponent, cs) ← readExponent cs
  pure (.number { negative, whole, fraction, exponent }, cs)

mutual

/-- Reads a value. Every value takes one unit of fuel and one for each item or member. -/
def readValue : Nat → List Char → Option (Document × List Char)
  | 0, _ => none
  | fuel + 1, cs =>
    match skipSpace cs with
    | 'n' :: 'u' :: 'l' :: 'l' :: rest => some (.null, rest)
    | 't' :: 'r' :: 'u' :: 'e' :: rest => some (.bool true, rest)
    | 'f' :: 'a' :: 'l' :: 's' :: 'e' :: rest => some (.bool false, rest)
    | '"' :: rest => (readString rest).map fun (s, rest) => (.string s, rest)
    | '[' :: rest =>
      match skipSpace rest with
      | ']' :: rest => some (.array [], rest)
      | rest => readItems fuel [] rest
    | '\x7b' :: rest =>
      match skipSpace rest with
      | '\x7d' :: rest => some (.object [], rest)
      | rest => readMembers fuel [] rest
    | '-' :: rest => readNumber true rest
    | rest => readNumber false rest

/-- Reads the items of an array, at least one, and its end; `acc` holds those before. -/
def readItems : Nat → List Document → List Char → Option (Document × List Char)
  | 0, _, _ => none
  | fuel + 1, acc, cs =>
    match readValue fuel cs with
    | none => none
    | some (d, rest) =>
      match skipSpace rest with
      | ',' :: rest => readItems fuel (d :: acc) rest
      | ']' :: rest => some (.array (d :: acc).reverse, rest)
      | _ => none

/-- Reads the members of an object, at least one, and its end; `acc` holds those before. -/
def readMembers : Nat → List (Option String × Document) → List Char → Option (Document × List Char)
  | 0, _, _ => none
  | fuel + 1, acc, cs =>
    match skipSpace cs with
    | '"' :: rest =>
      match readString rest with
      | none => none
      | some (name, rest) =>
        match skipSpace rest with
        | ':' :: rest =>
          match readValue fuel rest with
          | none => none
          | some (d, rest) =>
            match skipSpace rest with
            | ',' :: rest => readMembers fuel ((name, d) :: acc) rest
            | '\x7d' :: rest => some (.object ((name, d) :: acc).reverse, rest)
            | _ => none
        | _ => none
    | _ => none

end

def parse? (s : String) : Option Document :=
  let cs := s.toList
  match readValue (cs.length + 1) cs with
  | some (d, rest) => if (skipSpace rest).isEmpty then some d else none
  | none => none

mutual

/-- The value of a tree nested at most `levels` deep. -/
def toJson? (levels : Nat) : Document → Option Json
  | .null => some .null
  | .bool b => some (.bool b)
  | .number n => n.toNumber?.map .number
  | .string s => s.map .string
  | .array items =>
    match levels with
    | 0 => none
    | levels + 1 => (itemsToJson? levels items).map .array
  | .object members =>
    match levels with
    | 0 => none
    | levels + 1 => (membersToJson? levels members).map fun ms => .ofAttributes (.ofList ms)

def itemsToJson? (levels : Nat) : List Document → Option (List Json)
  | [] => some []
  | d :: ds =>
    match toJson? levels d, itemsToJson? levels ds with
    | some j, some js => some (j :: js)
    | _, _ => none

def membersToJson? (levels : Nat) : List (Option String × Document) → Option (List (String × Json))
  | [] => some []
  | (name, d) :: ms =>
    match name, toJson? levels d, membersToJson? levels ms with
    | some name, some j, some js => some ((name, j) :: js)
    | _, _, _ => none

end

end Document

namespace Json

/-- How deep arrays and objects may be nested in a text that is read as a value. -/
def maxLevels : Nat := 127

def parse? (s : String) : Option Json := do
  (← Document.parse? s).toJson? maxLevels

end Json

end Sentinel
