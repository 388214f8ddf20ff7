import Sentinel.ScanJob
/-!
# Job queues

Jobs wait in the order in which they were submitted. A consumer is handed all waiting jobs whose
topic lies below its root; the others stay.

1. `isBelow_iff`: a topic lies below a root if it begins with the root and a slash.
2. `map_fst_consumeEach`, `length_takeBelow`: every job that is taken out is consumed once, and
   those taken out and those left are as many as there were.

Correspondence (operation of the component ↔ definition):
  `MemoryJobQueue.submit`, `set_rejecting` ↔ `JobQueue.submit`, `JobQueue.setRejecting`
  `take_all`, `run_pending`                ↔ `JobQueue.takeAll`, `JobQueue.runPending`
  `JobConsumer.accepts`                    ↔ `isBelow`
  `submitted_count`, `pending`             ↔ the fields `submitted`, `jobs`
-/

namespace Sentinel

/-- A job as it waits. -/
structure QueuedJob where
  topic : String
  attributes : Attributes

inductive JobOutcome where
  | ok
  | failed
deriving DecidableEq, Repr

def JobOutcome.word : JobOutcome → String
  | ok => "OK"
  | failed => "FAILED"

/-- The waiting jobs, how many were ever accepted, and whether new ones are refused. -/
structure JobQueue where
  jobs : List QueuedJob
  submitted : Nat
  rejecting : Bool

def isBelow (root topic : String) : Bool :=
  match Text.dropLead? root.toList topic.toList with
  | some ('/' :: _) => true
  | _ => false

theorem isBelow_iff {root topic : String} :
    isBelow root topic = true ↔ ∃ rest, topic.toList = root.toList ++ '/' :: rest := by
  rw [isBelow]
  constructor
  · intro h
    split at h
    · next rest hr => exact ⟨rest, Text.dropLead?_eq_some_iff.mp hr⟩
    · cases h
  · rintro ⟨rest, h⟩
    have hr := Text.dropLead?_eq_some_iff.mpr h
    simp only [hr]

namespace JobQueue

def empty : JobQueue := ⟨[], 0, false⟩

instance : Inhabited JobQueue := ⟨empty⟩

def submit (q : JobQueue) (topic : String) (attributes : Attributes) : Except DispatchError JobQueue :=
  if q.rejecting then .error (.jobSubmission topic "queue is not accepting jobs")
  else .ok { q with jobs := q.jobs ++ [⟨topic, attributes⟩], submitted := q.submitted + 1 }

def setRejecting (q : JobQueue) (rejecting : Bool) : JobQueue := { q with rejecting }

def takeAll (q : JobQueue) : List QueuedJob × JobQueue := (q.jobs, { q with jobs := [] })

/-- Takes out the jobs whose topic lies below a root. -/
def takeBelow (q : JobQueue) (root : String) : List QueuedJob × JobQueue :=
  (q.jobs.filter fun j => isBelow root j.topic,
    { q with jobs := q.jobs.filter fun j => !isBelow root j.topic })

variable {σ : Type}

/-- Hands jobs to a consumer one after the other. -/
def consumeEach (consume : QueuedJob → σ → JobOutcome × σ) :
    List QueuedJob → σ → List (QueuedJob × JobOutcome) × σ
  | [], s => ([], s)
  | j :: js, s =>
    let (outcome, s) := consume j s
    let (outcomes, s) := consumeEach consume js s
    ((j, outcome) :: outcomes, s)

/-- Hands every waiting job below a root to a consumer. -/
def runPending (q : JobQueue) (root : String) (consume : QueuedJob → σ → JobOutcome × σ) (s : σ) :
    List (QueuedJob × JobOutcome) × JobQueue × σ :=
  let (jobs, q) := q.takeBelow root
  let (outcomes, s) := consumeEach consume jobs s
  (outcomes, q, s)

theorem map_fst_consumeEach (consume : QueuedJob → σ → JobOutcome × σ) (js : List QueuedJob) (s : σ) :
    (consumeEach consume js s).1.map (·.1) = js := by
  induction js generalizing s with
  | nil => rfl
  | cons j js ih =>
    rw [consumeEach, List.map_cons, ih]

theorem length_takeBelow (q : JobQueue) (root : String) :
    (q.takeBelow root).1.length + (q.takeBelow root).2.jobs.length = q.jobs.length := by
  show (q.jobs.filter _).length + (q.jobs.filter _).length = q.jobs.length
  generalize q.jobs = js
  induction js with
  | nil => rfl
  | cons j js ih =>
    cases hj : isBelow root j.topic <;> simp only [List.filter_cons, hj] <;>
      simp only [Bool.not_true, Bool.not_false, Bool.false_eq_true, if_true, if_false, List.length_cons]
    all_goals omega

end JobQueue

end Sentinel
