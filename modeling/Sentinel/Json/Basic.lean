import Sentinel.Decimal.Shortest
import Sentinel.KeyMap
/-!
# JSON values

A value of a JSON document. An object lists its members in the order in which they are written;
an object that was read from a text, or made from a map, lists them by name.
-/

namespace Sentinel

/-- A number: an integer, or a binary number where the text has a fraction, an exponent or too
many digits. -/
inductive JsonNumber where
  | int (i : Int)
  | real (x : Decimal.Binary64)
deriving DecidableEq, Repr

inductive Json where
  | null
  | bool (b : Bool)
  | number (n : JsonNumber)
  | string (s : String)
  | array (items : List Json)
  | object (members : List (String × Json))
deriving Repr

abbrev Attributes := KeyMap Json

namespace Json

instance : Inhabited Json := ⟨.null⟩

def ofNat (n : Nat) : Json := .number (.int n)

def ofInt (i : Int) : Json := .number (.int i)

def ofTexts (ts : List String) : Json := .array (ts.map .string)

def ofText? : Option String → Json
  | none => .null
  | some s => .string s

/-- A member of an object, which is left out where it has no value. -/
def member? (name : String) : Option Json → List (String × Json)
  | none => []
  | some j => [(name, j)]

def ofAttributes (m : Attributes) : Json := .object m.entries

def attributes? : Json → Option Attributes
  | .object members => some (.ofList members)
  | _ => none

def isNull : Json → Bool
  | .null => true
  | _ => false

def text? : Json → Option String
  | .string s => some s
  | _ => none

/-- The number of a JSON integer that is not negative and has at most 64 bits. -/
def word? : Json → Option Nat
  | .number (.int i) => if 0 ≤ i ∧ i < UInt64.size then some i.toNat else none
  | _ => none

end Json

end Sentinel
