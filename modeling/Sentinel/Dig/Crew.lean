import Sentinel.Dig.Change
/-!
# Digging after changes, with workers

A change digger and those who do its work. With one worker the tasks are done one after the other;
in a crew several workers take turns, in any order: one that is idle takes the task that has waited
longest, and one that is busy looks up the next property of its task.

Correspondence (operation of the component ↔ definition):
  `ChangeDigger.on_change`     ↔ `Crew.notify`
  the `recv` of a worker       ↔ `Crew.take`
  one candidate in `Inner.run` ↔ `Crew.resolve`
-/

namespace Sentinel

/-- What a change digger is told: which properties of a node were added or changed, and by whom. -/
structure Notification where
  path : String
  added : List String
  changed : List String
  userId : Option String
deriving DecidableEq, Repr

/-- A task in the hands of a worker: the properties still to be looked up, and what was done. -/
structure Errand where
  session : Session
  userId : Option String
  candidates : List String
  summary : DigSummary

/-- A digger with its workers, idle or busy, and what they work on. -/
structure Crew where
  digger : ChangeDigger
  workers : List (Option Errand)
  queue : JobQueue
  trail : Trail

/-- A notification, or the turn of a worker. -/
inductive Turn where
  | notify (n : Notification)
  | work (worker : Nat)

namespace ChangeDigger

def taskOf (d : ChangeDigger) (n : Notification) : DigTask where
  candidates := d.candidates n.path n.added n.changed
  userId := n.userId

def receive (d : ChangeDigger) (n : Notification) : Except DispatchError (Nat × ChangeDigger) :=
  d.notify n.path n.added n.changed n.userId

/-- Takes notifications and, where there is none, does the work of the task that has waited longest.
A notification that is rejected is the end. -/
def serve (r : Repository) : List (Option Notification) → ChangeDigger →
    StateM DigState (Except DispatchError ChangeDigger)
  | [], d => return .ok d
  | none :: rest, d => do serve r rest (← d.runOldest r)
  | some n :: rest, d =>
    match d.receive n with
    | .error e => return .error e
    | .ok (_, d) => serve r rest d

end ChangeDigger

namespace Crew

/-- A digger without tasks and its workers, all of them idle. -/
def start (settings : ChangeDigSettings) (pattern : PathPattern) (queue : JobQueue) (trail : Trail) :
    Crew where
  digger := ⟨settings, pattern, []⟩
  workers := List.replicate settings.workers none
  queue := queue
  trail := trail

def notify (c : Crew) (n : Notification) : Except DispatchError Nat × Crew :=
  match c.digger.receive n with
  | .error e => (.error e, c)
  | .ok (count, digger) => (.ok count, { c with digger })

def assign (c : Crew) (worker : Nat) (e : Option Errand) : Crew :=
  { c with workers := c.workers.set worker e }

/-- An idle worker takes the task that has waited longest; it is lost where no session opens. -/
def take (r : Repository) (c : Crew) (worker : Nat) : Crew :=
  match c.digger.waiting with
  | [] => c
  | task :: waiting =>
    let c := { c with digger.waiting := waiting }
    match Session.openOn r with
    | .error _ => c
    | .ok session => c.assign worker (some ⟨session, task.userId, task.candidates, {}⟩)

/-- A busy worker looks up the next property of its task; it is idle where there is none left. -/
def resolve (c : Crew) (worker : Nat) (e : Errand) : Crew :=
  match e.candidates with
  | [] => c.assign worker none
  | path :: candidates =>
    let s := ((ChangeDigger.digCandidate c.digger.settings e.session e.userId path).run
      ⟨c.queue, c.trail, e.summary⟩).2
    { c with queue := s.queue, trail := s.trail }.assign worker
      (some { e with candidates, summary := s.summary })

def work (r : Repository) (c : Crew) (worker : Nat) : Crew :=
  match c.workers[worker]? with
  | none => c
  | some none => c.take r worker
  | some (some e) => c.resolve worker e

/-- Turns one after the other, with the answers to the notifications. -/
def run (r : Repository) : List Turn → Crew → List (Notification × Except DispatchError Nat) × Crew
  | [], c => ([], c)
  | .notify n :: turns, c =>
    let (answer, c) := c.notify n
    let (answers, c) := run r turns c
    ((n, answer) :: answers, c)
  | .work worker :: turns, c => run r turns (c.work r worker)

/-- No task waits and no worker is busy. -/
def IsDone (c : Crew) : Prop := c.digger.waiting = [] ∧ ∀ e ∈ c.workers, e = none

instance (c : Crew) : Decidable c.IsDone :=
  decidable_of_iff (c.digger.waiting = [] ∧ c.workers.all (·.isNone) = true) (by simp [IsDone])

end Crew

end Sentinel
