import Sentinel.Content.Repository
import Sentinel.Dig.Emission
import Sentinel.Dig.Settings
/-!
# Digging after changes

A change digger is told which properties of a node were added or changed. Those whose path matches
wait as one task; a worker looks each of them up and submits the jobs for those of the right type. A
property that cannot be read, or whose jobs are refused, costs itself only.

Correspondence (operation of the component ↔ definition):
  `ChangeDigger.start`, `on_change` ↔ `ChangeDigger.start`, `ChangeDigger.notify`
  the bounded channel of tasks      ↔ the field `waiting`
  `Inner.run`, one candidate of it  ↔ `ChangeDigger.runTask`, `ChangeDigger.digCandidate`
-/

namespace Sentinel

/-- The properties to look up for one notification, and who made the change. -/
structure DigTask where
  candidates : List String
  userId : Option String
deriving DecidableEq, Repr

/-- A digger with the tasks that wait for a worker. -/
structure ChangeDigger where
  settings : ChangeDigSettings
  pattern : PathPattern
  waiting : List DigTask

/-- The most messages that a bounded channel can be made for. -/
def maxChannelCapacity : Nat := UInt64.size / 8 - 1

/-- The most workers that can be listed: a list takes at most half of all addresses, and eight of
them for each worker. -/
def maxWorkers : Nat := UInt64.size / 2 / 8 - 1

/-- The names of two lists in order, each once. -/
def unionOfNames (xs ys : List String) : List String :=
  (KeyMap.ofList ((xs ++ ys).map fun n => (n, ()))).keys

namespace ChangeDigger

/-- Starts a digger. A capacity beyond what a channel can have is no error but a panic, and so are
more workers than can be listed. -/
def start [SizeLimit] (settings : ChangeDigSettings) : Except (Fault DispatchError) ChangeDigger := do
  match settings.validate with
  | .error e => throw (.error e)
  | .ok () =>
    match PathPattern.ofSource? settings.pathPattern with
    | .error e => throw (.error e)
    | .ok pattern =>
      if settings.capacity ≤ maxChannelCapacity ∧ settings.workers ≤ maxWorkers then
        return ⟨settings, pattern, []⟩
      else throw .panic

/-- The paths of the named properties of a node that match. -/
def candidates (d : ChangeDigger) (path : String) (added changed : List String) : List String :=
  ((unionOfNames added changed).map (Path.child path)).filter d.pattern.accepts

/-- Takes a notification, and says how many properties it queued. A notification without any takes
no place; one that finds every place taken is rejected. -/
def notify (d : ChangeDigger) (path : String) (added changed : List String) (userId : Option String) :
    Except DispatchError (Nat × ChangeDigger) :=
  match d.candidates path added changed with
  | [] => .ok (0, d)
  | cs =>
    if d.waiting.length < d.settings.capacity then
      .ok (cs.length, { d with waiting := d.waiting ++ [⟨cs, userId⟩] })
    else .error (.rejected "change dig queue is full")

/-- Looks one property up and submits its jobs. -/
def digCandidate (settings : ChangeDigSettings) (session : Session) (userId : Option String) (path : String) :
    StateM DigState Unit := do
  match session.property? path with
  | .error _ => pure ()
  | .ok p =>
    if p.propertyType = settings.propertyType then
      modify fun s => { s with summary.propertiesResolved := s.summary.propertiesResolved + 1 }
      discard (Dig.emit p settings.maxLength userId).run

def digCandidates (settings : ChangeDigSettings) (session : Session) (userId : Option String) :
    List String → StateM DigState Unit
  | [] => pure ()
  | path :: paths => do
    digCandidate settings session userId path
    digCandidates settings session userId paths

def runTask (settings : ChangeDigSettings) (r : Repository) (task : DigTask) :
    StateM DigState DigSummary := do
  modify fun s => { s with summary := {} }
  match Session.openOn r with
  | .error _ => pure ()
  | .ok session => digCandidates settings session task.userId task.candidates
  return (← get).summary

/-- Does the work of the task that has waited longest. -/
def runOldest (r : Repository) (d : ChangeDigger) : StateM DigState ChangeDigger := do
  match d.waiting with
  | [] => return d
  | task :: waiting =>
    discard (runTask d.settings r task)
    return { d with waiting }

end ChangeDigger

end Sentinel
