import Sentinel.ScanJob
import Sentinel.ScanResult
/-!
# Findings

A scan result together with the value it was found in, as one flat record. All sinks report this
record: as JSON text, or as a map of properties, which leaves out the type.

Correspondence (operation of the component ↔ definition):
  `ResultAttributes.new`           ↔ `Finding.ofResult`
  `ResultAttributes.to_properties` ↔ `Finding.properties`
  `ResultAttributes.to_json`       ↔ `Finding.toJson`, written compactly
-/

namespace Sentinel

/-- A value: its property, its place among several values, its type and who put it there. -/
structure Subject where
  path : String
  index : Option Nat
  propertyType : PropertyType
  userId : Option String
deriving DecidableEq, Repr

/-- The value that a job names, with the type that its property has now. -/
def ScanJob.subject (j : ScanJob) (propertyType : PropertyType) : Subject where
  path := j.path
  index := j.index
  propertyType := propertyType
  userId := j.userId

/-- A result and its value in one record. Times are milliseconds since the start of 1970. -/
structure Finding where
  timestamp : Int
  status : ScanStatus
  message : String
  started : Int
  size : Nat
  path : String
  index : Option Nat
  propertyType : PropertyType
  userId : Option String
deriving DecidableEq, Repr

namespace Finding

def ofResult (r : ScanResult) (s : Subject) : Finding where
  timestamp := r.timestamp.millis
  status := r.status
  message := r.message
  started := r.started.millis
  size := r.size
  path := s.path
  index := s.index
  propertyType := s.propertyType
  userId := s.userId

/-- The record as JSON; what is absent is left out. -/
def toJson (f : Finding) : Json :=
  .object ([("timestamp", .ofInt f.timestamp), ("status", .string f.status.canonicalName),
    ("message", .string f.message), ("started", .ofInt f.started), ("size", .ofNat f.size),
    ("path", .string f.path)] ++ (Json.member? "index" (f.index.map .ofNat) ++
    (("propertyType", .string f.propertyType.canonicalName) ::
      Json.member? "userId" (f.userId.map .string))))

/-- The record as a map of properties; what is absent is left out, and so is the type. -/
def properties (f : Finding) : Attributes :=
  let m : Attributes := KeyMap.ofList [("path", .string f.path), ("timestamp", .ofInt f.timestamp),
    ("message", .string f.message), ("status", .string f.status.canonicalName),
    ("started", .ofInt f.started), ("size", .ofNat f.size)]
  let m := match f.index with
    | some i => m.insert "index" (.ofNat i)
    | none => m
  match f.userId with
  | some u => m.insert "userId" (.string u)
  | none => m

/-- A time in a JSON document: an integer of 64 bits. -/
def millis? (d : Document) : Option Int := d.intWithin? Int64.minValue.toInt Int64.maxValue.toInt

def ofDocument? (d : Document) : Option Finding := do
  let f ← d.fields?
    ["timestamp", "status", "message", "started", "size", "path", "index", "propertyType", "userId"]
  return {
    timestamp := ← f.required "timestamp" millis?
    status := ← f.required "status" ScanStatus.ofDocument?
    message := ← f.required "message" Document.text?
    started := ← f.required "started" millis?
    size := ← f.required "size" Document.word?
    path := ← f.required "path" Document.text?
    index := ← f.withDefault "index" (Document.nullable? Document.word?) none
    propertyType := ← f.required "propertyType" PropertyType.ofDocument?
    userId := ← f.withDefault "userId" (Document.nullable? Document.text?) none }

def parse? (s : String) : Option Finding := (Document.parse? s).bind ofDocument?

end Finding

end Sentinel
