import Sentinel.Json.Record
import Sentinel.PathPattern
import Sentinel.ScanJob
/-!
# Settings of digs

The defaults of tree digs and the settings of change diggers, as JSON records and as rules on what
is admitted. A member that is absent takes its default.

Correspondence (operation of the component ↔ definition):
  `TreeDiggerConfig`, `validate`   ↔ `TreeDigSettings`, `TreeDigSettings.validate`
  `ChangeDiggerConfig`, `validate` ↔ `ChangeDigSettings`, `ChangeDigSettings.validate`
-/

namespace Sentinel

/-- The pattern that takes every path. -/
def defaultPathPattern : String := "^/.*$"

def Document.int64? (d : Document) : Option Int := d.intWithin? Int64.minValue.toInt Int64.maxValue.toInt

def Document.int32? (d : Document) : Option Int := d.intWithin? Int32.minValue.toInt Int32.maxValue.toInt

/-- What a tree dig looks for where nothing else is asked for. -/
structure TreeDigSettings where
  pathPattern : String := defaultPathPattern
  propertyTypes : List PropertyType := [.binary]
  maxLength : Int := -1
  maxDepth : Int := -1
deriving DecidableEq, Repr

namespace TreeDigSettings

def toJson (s : TreeDigSettings) : Json :=
  .object [("property_path_pattern", .string s.pathPattern),
    ("property_types", .ofTexts (s.propertyTypes.map (·.canonicalName))),
    ("property_length_max", .ofInt s.maxLength), ("node_depth_max", .ofInt s.maxDepth)]

def ofDocument? (d : Document) : Option TreeDigSettings := do
  let f ← d.fields? ["property_path_pattern", "property_types", "property_length_max", "node_depth_max"]
  let default : TreeDigSettings := {}
  return {
    pathPattern := ← f.withDefault "property_path_pattern" Document.text? default.pathPattern
    propertyTypes := ←
      f.withDefault "property_types" (Document.list? PropertyType.ofDocument?) default.propertyTypes
    maxLength := ← f.withDefault "property_length_max" Document.int64? default.maxLength
    maxDepth := ← f.withDefault "node_depth_max" Document.int32? default.maxDepth }

def parse? (s : String) : Option TreeDigSettings := (Document.parse? s).bind ofDocument?

def validate [SizeLimit] (s : TreeDigSettings) : Except DispatchError Unit := do
  let _ ← PathPattern.ofSource? s.pathPattern
  if s.propertyTypes.isEmpty then
    throw (.validation "propertyTypes" "At least one property type is required")
  Limit.check "maxLength" s.maxLength
  Limit.check "maxDepth" s.maxDepth

end TreeDigSettings

/-- What a change digger looks for, how many workers it has and how many notifications wait for
them at most. -/
structure ChangeDigSettings where
  propertyType : PropertyType := .binary
  pathPattern : String := defaultPathPattern
  maxLength : Int := -1
  workers : Nat := 4
  capacity : Nat := 256
deriving DecidableEq, Repr

namespace ChangeDigSettings

def toJson (s : ChangeDigSettings) : Json :=
  .object [("property_type", .string s.propertyType.canonicalName),
    ("property_path_pattern", .string s.pathPattern), ("property_length_max", .ofInt s.maxLength),
    ("workers", .ofNat s.workers), ("queue_capacity", .ofNat s.capacity)]

def ofDocument? (d : Document) : Option ChangeDigSettings := do
  let f ← d.fields?
    ["property_type", "property_path_pattern", "property_length_max", "workers", "queue_capacity"]
  let default : ChangeDigSettings := {}
  return {
    propertyType := ← f.withDefault "property_type" PropertyType.ofDocument? default.propertyType
    pathPattern := ← f.withDefault "property_path_pattern" Document.text? default.pathPattern
    maxLength := ← f.withDefault "property_length_max" Document.int64? default.maxLength
    workers := ← f.withDefault "workers" Document.word? default.workers
    capacity := ← f.withDefault "queue_capacity" Document.word? default.capacity }

def parse? (s : String) : Option ChangeDigSettings := (Document.parse? s).bind ofDocument?

def validate [SizeLimit] (s : ChangeDigSettings) : Except DispatchError Unit := do
  let _ ← PathPattern.ofSource? s.pathPattern
  Limit.check "property_length_max" s.maxLength
  if s.workers = 0 then throw (.validation "workers" "At least one worker is required")
  if s.capacity = 0 then throw (.validation "queue_capacity" "Queue capacity must be positive")

end ChangeDigSettings

end Sentinel
