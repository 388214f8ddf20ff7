/-!
# Property types

The types of the properties of a content tree, in their canonical order, and their names.

1. `ofName?_name`: every type is read from its own name, and from no other.

Correspondence (operation of the component ↔ definition):
  `PropertyType.name`                       ↔ `PropertyType.canonicalName`
  the names that `from_str` reads           ↔ `PropertyType.ofName?`
  `PropertyType.is_textual`, `is_scannable` ↔ `PropertyType.isTextual`, `isScannable`
  an ordered set of types                   ↔ `PropertyType.ordered`
-/

namespace Sentinel

inductive PropertyType where
  | string
  | binary
  | long
  | double
  | date
  | boolean
  | name
  | path
  | reference
  | weakReference
  | uri
  | decimal
deriving DecidableEq, Repr, Inhabited

namespace PropertyType

/-- Every type in canonical order. -/
def all : List PropertyType :=
  [string, binary, long, double, date, boolean, name, path, reference, weakReference, uri, decimal]

/-- The canonical name, which stands in topics, configurations and record names. -/
def canonicalName : PropertyType → String
  | string => "String"
  | binary => "Binary"
  | long => "Long"
  | double => "Double"
  | date => "Date"
  | boolean => "Boolean"
  | name => "Name"
  | path => "Path"
  | reference => "Reference"
  | weakReference => "WeakReference"
  | uri => "URI"
  | decimal => "Decimal"

def ofName? (s : String) : Option PropertyType := all.find? (·.canonicalName = s)

/-- Types whose values are scanned as text. -/
def isTextual : PropertyType → Bool
  | string | uri | name | path => true
  | _ => false

/-- Types whose values can be handed to an engine. -/
def isScannable (t : PropertyType) : Bool := t == binary || t.isTextual

/-- The types of a list in canonical order, each once. -/
def ordered (ts : List PropertyType) : List PropertyType := all.filter (ts.contains ·)

theorem mem_all (t : PropertyType) : t ∈ all := by cases t <;> decide

theorem ofName?_name (t : PropertyType) : ofName? t.canonicalName = some t := by
  cases t <;> decide

theorem canonicalName_of_ofName? {s : String} {t : PropertyType} (h : ofName? s = some t) :
    t.canonicalName = s := by
  simpa using List.find?_some h

theorem canonicalName_inj {s t : PropertyType} : s.canonicalName = t.canonicalName ↔ s = t := by
  constructor
  · intro h
    have hs := ofName?_name s
    rw [h, ofName?_name] at hs
    exact (Option.some.inj hs).symm
  · exact congrArg _

theorem ofName?_eq_none_iff {name : String} :
    ofName? name = none ↔ ∀ t : PropertyType, t.canonicalName ≠ name := by
  simp [ofName?, mem_all]

theorem filter_all_ne_nil {p : PropertyType → Bool} {t : PropertyType} (h : p t = true) :
    all.filter p ≠ [] :=
  List.ne_nil_of_mem (List.mem_filter.mpr ⟨mem_all t, h⟩)

theorem ordered_ne_nil {ts : List PropertyType} (h : ts ≠ []) : ordered ts ≠ [] := by
  obtain ⟨t, ht⟩ := List.exists_mem_of_ne_nil ts h
  exact filter_all_ne_nil (List.contains_iff_mem.mpr ht)

end PropertyType

end Sentinel
