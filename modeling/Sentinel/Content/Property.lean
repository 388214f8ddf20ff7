import Sentinel.Content.Stream
import Sentinel.Json.Basic
import Sentinel.Path
import Sentinel.PropertyType
/-!
# Values and properties

A value is binary or a text; its length counts bytes. A property is described by its path, its type
and the lengths of its values.

Correspondence (operation of the component ↔ definition):
  `MemoryValue.len`                            ↔ `ContentValue.length`
  `PropertyLengths`                            ↔ `Lengths`
  `ContentProperty.is_multiple`, `value_count` ↔ `ContentProperty.isMultiple`, `ContentProperty.count`
-/

namespace Sentinel

inductive ContentValue where
  | binary (data : Bytes)
  | text (s : String)
deriving DecidableEq, Repr

namespace ContentValue

/-- The bytes of a value; a text has those of its UTF-8 form. -/
def bytes : ContentValue → Bytes
  | binary data => data
  | text s => utf8 s

def length (v : ContentValue) : Nat := v.bytes.length

/-- The stream that an engine reads. -/
def stream : ContentValue → ValueStream
  | binary data => .ofBytes data
  | text s => .ofText s

end ContentValue

/-- The length of the only value of a property, or the lengths of its several values. -/
inductive Lengths where
  | single (length : Nat)
  | multiple (lengths : List Nat)
deriving DecidableEq, Repr

def Lengths.toJson : Lengths → Json
  | single length => .ofNat length
  | multiple lengths => .array (lengths.map .ofNat)

/-- A property as a repository describes it. -/
structure ContentProperty where
  path : String
  propertyType : PropertyType
  lengths : Lengths
deriving DecidableEq, Repr

namespace ContentProperty

/-- Whether the property has several values, or room for them. -/
def isMultiple (p : ContentProperty) : Bool :=
  match p.lengths with
  | .single _ => false
  | .multiple _ => true

def count (p : ContentProperty) : Nat :=
  match p.lengths with
  | .single _ => 1
  | .multiple lengths => lengths.length

def toJson (p : ContentProperty) : Json :=
  .object [("path", .string p.path), ("type", .string p.propertyType.canonicalName),
    ("multiple", .bool p.isMultiple), ("count", .ofNat p.count), ("lengths", p.lengths.toJson)]

/-- The index and the length of each value; an only value has no index. -/
def places (p : ContentProperty) : List (Option Nat × Nat) :=
  match p.lengths with
  | .single length => [(none, length)]
  | .multiple lengths => lengths.zipIdx.map fun (length, index) => (some index, length)

end ContentProperty

end Sentinel
