import Sentinel.Json.Document
/-!
# Reading records from JSON

A record is written as an object of named members, or as an array of the members' values in their
order. Unknown members are skipped whatever they hold; a member that is given twice is refused.
-/

namespace Sentinel

namespace Document

def text? : Document → Option String
  | .string s => s
  | _ => none

def bool? : Document → Option Bool
  | .bool b => some b
  | _ => none

def intWithin? (lo hi : Int) : Document → Option Int
  | .number n => n.integer?.filter fun i => lo ≤ i && i ≤ hi
  | _ => none

/-- A natural number of at most 64 bits. -/
def word? (d : Document) : Option Nat := (d.intWithin? 0 (UInt64.size - 1)).map Int.toNat

def list? {α : Type} (read : Document → Option α) : Document → Option (List α)
  | .array items => items.mapM read
  | _ => none

def nullable? {α : Type} (read : Document → Option α) : Document → Option (Option α)
  | .null => some none
  | d => (read d).map some

/-- One of several names, written as a text or as an object with this one member, which is null. -/
def choice? {α : Type} (read : String → Option α) : Document → Option α
  | .string s => s.bind read
  | .object [(name, .null)] => name.bind read
  | _ => none

/-- The known members of a record that are present, and whether they were given by position. -/
structure Fields where
  positional : Bool
  present : List (String × Document)

/-- The members of a record whose known members have the given names, in this order. -/
def fields? (names : List String) : Document → Option Fields
  | .object members => do
    let named ← members.mapM fun (name, d) => name.map (·, d)
    let known := named.filter (names.contains ·.1)
    if (known.map (·.1)).Nodup then some ⟨false, known⟩ else none
  | .array items => if items.length ≤ names.length then some ⟨true, names.zip items⟩ else none
  | _ => none

namespace Fields

variable {α : Type}

/-- What a record gives for a member. -/
def find? (f : Fields) (name : String) : Option Document := (f.present.find? (·.1 = name)).map (·.2)

/-- A member that must be present. -/
def required (f : Fields) (name : String) (read : Document → Option α) : Option α :=
  (f.find? name).bind read

/-- A member that may be absent or null; a record that is written as an array must give it. -/
def optional (f : Fields) (name : String) (read : Document → Option α) : Option (Option α) :=
  match f.find? name with
  | some d => nullable? read d
  | none => if f.positional then none else some none

/-- A member that takes a default value where it is absent. -/
def withDefault (f : Fields) (name : String) (read : Document → Option α) (default : α) : Option α :=
  match f.find? name with
  | some d => read d
  | none => some default

end Fields

end Document

end Sentinel
