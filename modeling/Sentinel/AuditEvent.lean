import Sentinel.Finding
import Sentinel.Text.Quoted
/-!
# Audit events

What is recorded of every job that is submitted, every value that is skipped, every scan, every
handler that fails, and every streaming client that comes and goes.

Correspondence (operation of the component ↔ definition):
  `ScanAuditEvent.new`                    ↔ `ScanRecord.ofResult`
  `emit_job_submitted` and the other five ↔ the constructors of `AuditEvent`
  the fields that are emitted             ↔ `AuditEvent.facts`
  `ClosedReason.as_str`                   ↔ `ClosedReason.word`
-/

namespace Sentinel

/-- The name by which a streaming client is known; no two clients share one. -/
abbrev ClientId := Nat

inductive ClosedReason where
  | completed
  | timeout
  | error
  | shutdown
deriving DecidableEq, Repr

def ClosedReason.word : ClosedReason → String
  | completed => "completed"
  | timeout => "timeout"
  | error => "error"
  | shutdown => "shutdown"

def ClosedReason.ofWord? (s : String) : Option ClosedReason :=
  [completed, timeout, error, shutdown].find? (·.word = s)

structure ScanRecord where
  timestamp : Instant
  path : String
  index : Option Nat
  propertyType : PropertyType
  userId : Option String
  status : ScanStatus
  message : String
  size : Nat
  duration : Int
deriving DecidableEq

namespace ScanRecord

def ofResult (r : ScanResult) (s : Subject) : ScanRecord where
  timestamp := r.timestamp
  path := s.path
  index := s.index
  propertyType := s.propertyType
  userId := s.userId
  status := r.status
  message := r.message
  size := r.size
  duration := r.duration

/-- The record as JSON; what is absent is null. -/
def toJson (r : ScanRecord) : Json :=
  .object [("timestamp", .string r.timestamp.brief), ("path", .string r.path),
    ("index", (r.index.map Json.ofNat).getD .null), ("property_type", .string r.propertyType.canonicalName),
    ("user_id", .ofText? r.userId), ("status", .string r.status.canonicalName),
    ("message", .string r.message), ("size", .ofNat r.size), ("duration_ms", .ofInt r.duration)]

end ScanRecord

/-- An entry of the audit trail. -/
inductive AuditEvent where
  | jobSubmitted (topic path : String) (index : Option Nat) (userId : Option String)
  | valueSkipped (path : String) (index : Option Nat) (length : Nat) (limit : Int)
  | scanCompleted (record : ScanRecord)
  | handlerFailed (handler path : String) (index : Option Nat) (message : String)
  | clientRegistered (client : ClientId) (clients : Nat)
  | clientClosed (client : ClientId) (reason : ClosedReason) (undelivered : Nat)
deriving DecidableEq

/-- The audit trail, oldest entry first. -/
abbrev Trail := List AuditEvent

namespace AuditEvent

def kind : AuditEvent → String
  | jobSubmitted .. => "job_submitted"
  | valueSkipped .. => "value_skipped"
  | scanCompleted .. => "scan_completed"
  | handlerFailed .. => "handler_failed"
  | clientRegistered .. => "client_registered"
  | clientClosed .. => "client_closed"

def level : AuditEvent → String
  | valueSkipped .. => "WARN"
  | handlerFailed .. => "ERROR"
  | _ => "INFO"

/-- The sentence that is logged with every event of a kind. -/
def text : AuditEvent → String
  | jobSubmitted .. => "Scan job submitted"
  | valueSkipped .. => "Length of property value greater than max length"
  | scanCompleted _ => "Scan completed"
  | handlerFailed .. => "Result handler failed"
  | clientRegistered .. => "Streaming client registered"
  | clientClosed .. => "Streaming client closed"

/-- The facts of an event. What may be absent stands as a quoted value; clients are named by
`clientName`. -/
def facts (clientName : ClientId → Json) : AuditEvent → List (String × Json)
  | jobSubmitted topic path index userId =>
    [("topic", .string topic), ("path", .string path), ("index", .string (Text.optionalNat index)),
      ("user_id", .string (Text.optionalQuoted userId))]
  | valueSkipped path index length limit =>
    [("path", .string path), ("index", .string (Text.optionalNat index)), ("length", .ofNat length),
      ("max_length", .ofInt limit)]
  | scanCompleted r =>
    [("path", .string r.path), ("index", .string (Text.optionalNat r.index)),
      ("property_type", .string r.propertyType.canonicalName),
      ("user_id", .string (Text.optionalQuoted r.userId)), ("status", .string r.status.canonicalName),
      ("message", .string r.message), ("size", .ofNat r.size), ("duration_ms", .ofInt r.duration)]
  | handlerFailed handler path index message =>
    [("handler", .string handler), ("path", .string path), ("index", .string (Text.optionalNat index)),
      ("error", .string message)]
  | clientRegistered client clients => [("client_id", clientName client), ("clients", .ofNat clients)]
  | clientClosed client reason undelivered =>
    [("client_id", clientName client), ("reason", .string reason.word), ("undelivered", .ofNat undelivered)]

def toAttributes (clientName : ClientId → Json) (e : AuditEvent) : Attributes :=
  KeyMap.ofList ([("event_type", .string e.kind), ("level", .string e.level), ("text", .string e.text)] ++
    e.facts clientName)

end AuditEvent

end Sentinel
