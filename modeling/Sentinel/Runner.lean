import Sentinel.Content.Repository
import Sentinel.Dispatcher
import Sentinel.Engine
import Sentinel.JobQueue
/-!
# Running jobs

A job is run in three steps: its value is opened, an engine scans it, and the result goes to every
handler. An error in one step leaves out the steps behind it.

Correspondence (operation of the component ↔ definition):
  `ScanJobRunner.open`        ↔ `Runner.openValue`; the shape of the job: `checkShape`
  `process`, `consume`        ↔ `Runner.process`, `Runner.consume`
  `JobConsumer.consume`       ↔ `Runner.consumeQueued`
  `run_pending` with a runner ↔ `Runner.runPending`
-/

namespace Sentinel

/-- What running a job changes: the engine, the audit trail and the state of the handlers. -/
structure RunState (σ : Type) where
  engine : Engine
  trail : Trail
  sinks : σ

/-- A step of a run. -/
abbrev Runs (σ : Type) (α : Type) := ExceptT DispatchError (StateM (RunState σ)) α

namespace Runner

variable {σ : Type}

/-- Refuses a job whose index does not fit the property that it names. -/
def checkShape (p : ContentProperty) (j : ScanJob) : Except DispatchError Unit :=
  match p.isMultiple, j.index with
  | true, some index =>
    if index < p.count then .ok () else .error (.repositoryAccess (.indexOutOfRange j.path index p.count))
  | true, none => .error (.shapeMismatch j.path "multi-valued property but job has no index")
  | false, some _ => .error (.shapeMismatch j.path "single-valued property but job has an index")
  | false, none => .ok ()

/-- The type and the stream of the value that a job names. -/
def openValue (r : Repository) (j : ScanJob) : Except DispatchError (PropertyType × ValueStream) := do
  let session ← (Session.openOn r).mapError .repositoryAccess
  let p ← (session.property? j.path).mapError .repositoryAccess
  checkShape p j
  if !p.propertyType.isScannable then throw (.unsupportedType j.path p.propertyType)
  let v ← (session.value? j.path j.index).mapError .repositoryAccess
  return (p.propertyType, v.stream)

def scan (stream : ValueStream) : Runs σ ScanResult := do
  let s ← get
  let (outcome, engine) := s.engine.scan stream
  set { s with engine }
  match outcome with
  | .ok r => return r
  | .error e => throw (.scanEngine e)

def record (es : List AuditEvent) : Runs σ Unit := modify fun s => { s with trail := s.trail ++ es }

def dispatch (d : Dispatcher σ) (r : ScanResult) (s : Subject) : Runs σ DispatchReport := do
  let state ← get
  let (report, sinks) := (d.dispatch r s).run state.sinks
  set { state with sinks }
  record (report.events s)
  return report

def process (r : Repository) (d : Dispatcher σ) (j : ScanJob) : Runs σ ScanResult := do
  match openValue r j with
  | .error e => throw e
  | .ok (propertyType, stream) =>
    let result ← scan stream
    let subject := j.subject propertyType
    record [.scanCompleted (.ofResult result subject)]
    discard (dispatch d result subject)
    return result

/-- Runs a job; handlers that fail do not make the job fail. -/
def consume (r : Repository) (d : Dispatcher σ) (j : ScanJob) : StateM (RunState σ) JobOutcome := do
  match ← (process r d j).run with
  | .ok _ => return .ok
  | .error _ => return .failed

/-- Runs a job from a queue; one that cannot be read fails. -/
def consumeQueued (r : Repository) (d : Dispatcher σ) (q : QueuedJob) : StateM (RunState σ) JobOutcome :=
  match ScanJob.ofTopic? q.topic q.attributes with
  | .ok j => consume r d j
  | .error _ => pure .failed

def runPending (r : Repository) (d : Dispatcher σ) (q : JobQueue) (s : RunState σ) :
    List (QueuedJob × JobOutcome) × JobQueue × RunState σ :=
  q.runPending scanTopicRoot (fun j s => (consumeQueued r d j).run s) s

end Runner

end Sentinel
