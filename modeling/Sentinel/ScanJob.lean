import Sentinel.Error
import Sentinel.Json.Printer
import Sentinel.Json.Record
import Sentinel.Text.Split
/-!
# Scan jobs

A scan job names one value of a property. On a queue it is a topic, which ends in the name of the
property's type, and a map of attributes.

Correspondence (operation of the component ↔ definition):
  `scan_job_topic`, `result_event_topic` ↔ `PropertyType.scanTopic`, `PropertyType.resultTopic`
  `ScanJob.topic`, `to_attributes`       ↔ `ScanJob.topic`, `ScanJob.attributes`
  `ScanJob.from_topic_and_attributes`    ↔ `ScanJob.ofTopic?`
-/

namespace Sentinel

def scanTopicRoot : String := "contentscan/scan/property"

def resultTopicRoot : String := "contentscan/result/property"

namespace PropertyType

def scanTopic (t : PropertyType) : String := scanTopicRoot ++ "/" ++ t.canonicalName

def resultTopic (t : PropertyType) : String := resultTopicRoot ++ "/" ++ t.canonicalName

def ofDocument? : Document → Option PropertyType := Document.choice? ofName?

end PropertyType

/-- The value to be scanned. A value of a property with several values has an index. -/
structure ScanJob where
  path : String
  index : Option Nat
  userId : Option String
  propertyType : PropertyType
deriving DecidableEq, Repr

namespace ScanJob

def topic (j : ScanJob) : String := j.propertyType.scanTopic

/-- What is said of the job but for its type: path, index and user, those that there are. -/
def attributes (j : ScanJob) : Attributes :=
  let m : Attributes := KeyMap.empty.insert "path" (.string j.path)
  let m := match j.index with
    | some i => m.insert "index" (.ofNat i)
    | none => m
  match j.userId with
  | some u => m.insert "userId" (.string u)
  | none => m

def typeOfTopic? (topic : String) : Except DispatchError PropertyType :=
  match Text.dropLead? (scanTopicRoot ++ "/").toList topic.toList with
  | none => .error (.invalidJob topic "not a scan job topic")
  | some name =>
    match PropertyType.ofName? (String.ofList name) with
    | some t => .ok t
    | none => .error (.invalidJob topic ("unknown property type: " ++ String.ofList name))

/-- The index among the attributes; null counts as absent. -/
def indexOf? (topic : String) (attributes : Attributes) : Except DispatchError (Option Nat) :=
  match attributes.get? "index" with
  | none | some .null => .ok none
  | some j =>
    match j.word? with
    | some i => .ok (some i)
    | none => .error (.invalidJob topic ("invalid index: " ++ j.compact))

/-- The job that a topic and attributes stand for. A user that is not a text counts as absent. -/
def ofTopic? (topic : String) (attributes : Attributes) : Except DispatchError ScanJob := do
  let propertyType ← typeOfTopic? topic
  match (attributes.get? "path").bind Json.text? with
  | none => .error (.invalidJob topic "missing path")
  | some path =>
    let index ← indexOf? topic attributes
    return { path, index, userId := (attributes.get? "userId").bind Json.text?, propertyType }

def toJson (j : ScanJob) : Json :=
  .object (("path", .string j.path) :: (Json.member? "index" (j.index.map .ofNat) ++
    (Json.member? "userId" (j.userId.map .string) ++
      [("propertyType", .string j.propertyType.canonicalName)])))

def ofDocument? (d : Document) : Option ScanJob := do
  let f ← d.fields? ["path", "index", "userId", "propertyType"]
  return {
    path := ← f.required "path" Document.text?
    index := ← f.optional "index" Document.word?
    userId := ← f.optional "userId" Document.text?
    propertyType := ← f.required "propertyType" PropertyType.ofDocument? }

def parse? (s : String) : Option ScanJob := (Document.parse? s).bind ofDocument?

end ScanJob

end Sentinel
