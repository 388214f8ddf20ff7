import Sentinel.Dig.Crew
import Sentinel.Pipeline
/-!
# Pipelines at work

Every change digger of a pipeline has workers of its own, and they all submit into one queue. A
notification to the pipeline is passed on to every digger; besides, the workers take turns in any order.

1. `diggers_receive`: a notification leaves each digger as it would leave it alone.

Correspondence (operation of the component ↔ definition):
  `ScanPipeline.on_change`                        ↔ `Workforce.notify`
  the workers that every digger of a pipeline has ↔ the field `staff`
  one candidate of a worker, or its next task     ↔ `Workforce.work`
-/

namespace Sentinel

namespace ChangeDigger

def answer (d : ChangeDigger) (n : Notification) : Except DispatchError Nat := (d.receive n).map (·.1)

/-- A digger after a notification: as it was, if it rejects it. -/
def received (d : ChangeDigger) (n : Notification) : ChangeDigger :=
  match d.receive n with
  | .ok (_, after) => after
  | .error _ => d

end ChangeDigger

namespace Pipeline

def receive (p : Pipeline) (n : Notification) : Except DispatchError Nat × Pipeline :=
  p.onChange n.path n.added n.changed n.userId

theorem diggers_receive (p : Pipeline) (n : Notification) :
    (p.receive n).2.diggers = p.diggers.map (·.received n) := by
  show (notifyEach n.path n.added n.changed n.userId p.diggers).1 = _
  induction p.diggers with
  | nil => rfl
  | cons d ds ih =>
    rw [notifyEach, List.map_cons, ChangeDigger.received, ChangeDigger.receive, ← ih]
    cases d.notify n.path n.added n.changed n.userId <;> rfl

end Pipeline

/-- A pipeline with the workers of each of its diggers, idle or busy, and what they all work on. -/
structure Workforce where
  pipeline : Pipeline
  staff : List (List (Option Errand))
  queue : JobQueue
  trail : Trail
  staffed : staff.length = pipeline.diggers.length

namespace Workforce

/-- A notification, or the turn of one of the workers of the digger at a place. -/
inductive Turn where
  | notify (n : Notification)
  | work (place worker : Nat)

/-- The diggers, each with its workers. -/
def stations (w : Workforce) : List (ChangeDigger × List (Option Errand)) := w.pipeline.diggers.zip w.staff

def crew (w : Workforce) (station : ChangeDigger × List (Option Errand)) : Crew :=
  ⟨station.1, station.2, w.queue, w.trail⟩

def notify (w : Workforce) (n : Notification) : Except DispatchError Nat × Workforce :=
  ((w.pipeline.receive n).1,
    { w with
      pipeline := (w.pipeline.receive n).2
      staffed := by rw [Pipeline.diggers_receive, List.length_map, w.staffed] })

def work (r : Repository) (w : Workforce) (place worker : Nat) : Workforce :=
  match w.stations[place]? with
  | none => w
  | some station =>
    let c := (w.crew station).work r worker
    { pipeline := { w.pipeline with diggers := w.pipeline.diggers.set place c.digger }
      staff := w.staff.set place c.workers
      queue := c.queue
      trail := c.trail
      staffed := by rw [List.length_set, List.length_set, w.staffed] }

def run (r : Repository) : List Turn → Workforce → Workforce
  | [], w => w
  | .notify n :: turns, w => run r turns (w.notify n).2
  | .work place worker :: turns, w => run r turns (w.work r place worker)

/-- No task waits at any digger, and no worker is busy. -/
def IsDone (w : Workforce) : Prop := ∀ station ∈ w.stations, (w.crew station).IsDone

instance (w : Workforce) : Decidable w.IsDone :=
  inferInstanceAs (Decidable (∀ station ∈ w.stations, (w.crew station).IsDone))

end Workforce

end Sentinel
