import Sentinel.Calendar
import Sentinel.Json.Printer
import Sentinel.Json.Record
/-!
# Scan results

What an engine says of a value: whether anything was found, what, when, and how many bytes it read.

Correspondence (operation of the component ↔ definition):
  `ScanStatus.as_str`                ↔ `ScanStatus.canonicalName`
  `ScanResult.new`, `with_timestamp` ↔ `ScanResult.make`
  `ScanResult.is_ok`, `is_infected`  ↔ `ScanResult.isOk`, `ScanResult.isInfected`
  `should_act`                       ↔ `ScanResult.callsFor`
-/

namespace Sentinel

inductive ScanStatus where
  | ok
  | infected
  | error
deriving DecidableEq, Repr

namespace ScanStatus

def all : List ScanStatus := [ok, infected, error]

def canonicalName : ScanStatus → String
  | ok => "OK"
  | infected => "INFECTED"
  | error => "ERROR"

def ofName? (s : String) : Option ScanStatus := all.find? (·.canonicalName = s)

def ofDocument? : Document → Option ScanStatus := Document.choice? ofName?

theorem ofName?_canonicalName (s : ScanStatus) : ofName? s.canonicalName = some s := by
  cases s <;> decide

end ScanStatus

structure ScanResult where
  status : ScanStatus
  message : String
  started : Instant
  timestamp : Instant
  size : Nat
deriving DecidableEq

namespace ScanResult

/-- A result; where nothing was found there is no message. -/
def make (status : ScanStatus) (message : String) (started timestamp : Instant) (size : Nat) : ScanResult where
  status := status
  message := if status = .ok then "" else message
  started := started
  timestamp := timestamp
  size := size

/-- Whether nothing was found. -/
def isOk (r : ScanResult) : Bool := r.status == .ok

/-- Whether something was found. -/
def isInfected (r : ScanResult) : Bool := r.status == .infected

/-- Whether a sink takes the result: every one but for those that are all right, and those too
where they are wanted. -/
def callsFor (r : ScanResult) (evenWhenOk : Bool) : Bool := !r.isOk || evenWhenOk

/-- The time from the start to the end, in milliseconds. -/
def duration (r : ScanResult) : Int := r.timestamp.millis - r.started.millis

def toJson (r : ScanResult) : Json :=
  .object [("status", .string r.status.canonicalName), ("message", .string r.message),
    ("started", .ofInt r.started.millis), ("timestamp", .ofInt r.timestamp.millis), ("size", .ofNat r.size)]

/-- An instant in a JSON document: milliseconds within the years of the calendar. -/
def instant? (d : Document) : Option Instant :=
  (d.intWithin? Int64.minValue.toInt (UInt64.size - 1)).bind Instant.ofMillis?

def ofDocument? (d : Document) : Option ScanResult := do
  let f ← d.fields? ["status", "message", "started", "timestamp", "size"]
  return {
    status := ← f.required "status" ScanStatus.ofDocument?
    message := ← f.required "message" Document.text?
    started := ← f.required "started" instant?
    timestamp := ← f.required "timestamp" instant?
    size := ← f.required "size" Document.word? }

def parse? (s : String) : Option ScanResult := (Document.parse? s).bind ofDocument?

end ScanResult

end Sentinel
