import Sentinel.AuditEvent
import Sentinel.Content.Property
import Sentinel.JobQueue
import Sentinel.Limit
/-!
# Submitting jobs

Both ways of digging end in the same step: for each value of a property a job is submitted, or the
value is skipped because it is too long. Jobs, audit trail and counts stay as they are when an error
ends the dig.

Correspondence (operation of the component ↔ definition):
  `emit_jobs`      ↔ `Dig.emit`
  `submit_if_fits` ↔ `Dig.emitValue`; with room: `Dig.submit`
  `DigSummary`     ↔ `DigSummary`
-/

namespace Sentinel

/-- What a dig did. -/
structure DigSummary where
  nodesVisited : Nat := 0
  propertiesResolved : Nat := 0
  jobsEmitted : Nat := 0
  valuesSkipped : Nat := 0
deriving DecidableEq, Repr

def DigSummary.toJson (s : DigSummary) : Json :=
  .object [("nodes", .ofNat s.nodesVisited), ("resolved", .ofNat s.propertiesResolved),
    ("jobs", .ofNat s.jobsEmitted), ("skipped", .ofNat s.valuesSkipped)]

/-- What a dig works on: the queue, the audit trail and the counts so far. -/
structure DigState where
  queue : JobQueue
  trail : Trail
  summary : DigSummary

abbrev Digs (α : Type) := ExceptT DispatchError (StateM DigState) α

namespace Dig

def record (e : AuditEvent) : Digs Unit := modify fun s => { s with trail := s.trail ++ [e] }

def count (f : DigSummary → DigSummary) : Digs Unit := modify fun s => { s with summary := f s.summary }

def submit (j : ScanJob) : Digs Unit := do
  match (← get).queue.submit j.topic j.attributes with
  | .error e => throw e
  | .ok queue =>
    modify fun s => { s with queue }
    record (.jobSubmitted j.topic j.path j.index j.userId)
    count fun c => { c with jobsEmitted := c.jobsEmitted + 1 }

/-- Submits the job for one value, unless the value is too long. -/
def emitValue (p : ContentProperty) (limit : Int) (userId : Option String) (index : Option Nat)
    (length : Nat) : Digs Unit :=
  if withinLimit length limit then
    submit { path := p.path, index, userId, propertyType := p.propertyType }
  else do
    record (.valueSkipped p.path index length limit)
    count fun c => { c with valuesSkipped := c.valuesSkipped + 1 }

/-- Submits the jobs for values at some places of a property. -/
def emitPlaces (p : ContentProperty) (limit : Int) (userId : Option String) :
    List (Option Nat × Nat) → Digs Unit
  | [] => pure ()
  | (index, length) :: rest => do
    emitValue p limit userId index length
    emitPlaces p limit userId rest

/-- Submits the jobs for all values of a property. -/
def emit (p : ContentProperty) (limit : Int) (userId : Option String) : Digs Unit :=
  emitPlaces p limit userId p.places

end Dig

end Sentinel
