import Mathlib.Algebra.Ring.Nat
import Mathlib.Data.List.Induction
import Sentinel.Depot
/-!
# Where the jobs of a queue are

Every job that a queue accepts is in one place: it waits, or it is in the hands of one consumer, or it was
taken out. A book that knows only the operations says which job is where, and in every run the queue, the
batches and the takings are what the book says.

1. `placed_move`: moving entries of the book from one place to another.
2. `Keeps.step`, `keeps_run`: what one operation and what a run keep of the book.
3. `consumeEach_eq`: a consumer is called for each job in turn, and its state goes from call to call.
4. `run_hand`: a batch that is consumed without anything in between is one run of the waiting jobs.
-/

namespace Sentinel

variable {σ : Type}

/-- Where an accepted job is. -/
inductive JobPlace where
  | waiting
  | handed (batch : Nat)
  | taken (taking : Nat)
deriving DecidableEq, Repr

/-- The accepted jobs in the order of their submission, each with its place; whether submissions are
refused, and how many batches and takings there were. -/
structure JobBook where
  entries : List (QueuedJob × JobPlace)
  rejecting : Bool
  batches : Nat
  takings : Nat

namespace JobBook

/-- The jobs of some entries that are at a place. -/
def placed (place : JobPlace) (es : List (QueuedJob × JobPlace)) : List QueuedJob :=
  (es.filter (·.2 = place)).map (·.1)

/-- The jobs that are at a place, in the order of their submission. -/
def jobsAt (b : JobBook) (place : JobPlace) : List QueuedJob := placed place b.entries

/-- An entry with its new place, if it waits and is called for. -/
def move (called : QueuedJob → Bool) (place : JobPlace) (e : QueuedJob × JobPlace) :
    QueuedJob × JobPlace :=
  if e.2 = .waiting ∧ called e.1 then (e.1, place) else e

def empty : JobBook := ⟨[], false, 0, 0⟩

def enter (b : JobBook) : DepotOperation σ → JobBook
  | .submit topic attributes =>
    if b.rejecting then b else { b with entries := b.entries ++ [(⟨topic, attributes⟩, .waiting)] }
  | .setRejecting rejecting => { b with rejecting }
  | .hand c =>
    { b with
      entries := b.entries.map (move (fun j => isBelow c.root j.topic) (.handed b.batches))
      batches := b.batches + 1 }
  | .consume _ => b
  | .takeAll =>
    { b with
      entries := b.entries.map (move (fun _ => true) (.taken b.takings))
      takings := b.takings + 1 }

def of (ops : List (DepotOperation σ)) : JobBook := ops.foldl enter empty

/-- The jobs that are submitted while they are not refused. -/
def accepted : Bool → List (DepotOperation σ) → List QueuedJob
  | _, [] => []
  | rejecting, .submit topic attributes :: ops =>
    if rejecting then accepted rejecting ops else ⟨topic, attributes⟩ :: accepted rejecting ops
  | _, .setRejecting rejecting :: ops => accepted rejecting ops
  | rejecting, _ :: ops => accepted rejecting ops

/-- A place that there is: one of the batches or takings so far, or the queue. -/
def Knows (b : JobBook) : JobPlace → Prop
  | .waiting => True
  | .handed batch => batch < b.batches
  | .taken taking => taking < b.takings

section Placed

variable {called : QueuedJob → Bool} {place : JobPlace} {es : List (QueuedJob × JobPlace)}

theorem fst_move (e : QueuedJob × JobPlace) : (move called place e).1 = e.1 := by
  rw [move]
  split <;> rfl

theorem placed_append (es fs : List (QueuedJob × JobPlace)) :
    placed place (es ++ fs) = placed place es ++ placed place fs := by
  rw [placed, List.filter_append, List.map_append]
  rfl

theorem placed_cons (e : QueuedJob × JobPlace) (es : List (QueuedJob × JobPlace)) :
    placed place (e :: es) = if e.2 = place then e.1 :: placed place es else placed place es := by
  rw [placed, List.filter_cons]
  by_cases he : e.2 = place
  · simp [he, placed]
  · simp [he, placed]

/-- Entries that are called for leave the waiting ones, and stand at their new place in the same order;
no other place changes. -/
theorem placed_move (hplace : place ≠ .waiting) (hnew : ∀ e ∈ es, e.2 ≠ place) (p : JobPlace) :
    placed p (es.map (move called place)) =
      if p = .waiting then (placed .waiting es).filter (!called ·)
      else if p = place then (placed .waiting es).filter called
      else placed p es := by
  induction es with
  | nil => simp [placed]
  | cons e es ih =>
    obtain ⟨he, hes⟩ := List.forall_mem_cons.mp hnew
    have ih := ih hes
    obtain ⟨j, q⟩ := e
    have he : q ≠ place := he
    rw [List.map_cons, placed_cons, placed_cons, placed_cons, ih]
    by_cases hq : q = .waiting
    · subst hq
      cases hc : called j with
      | true =>
        have hmove : move called place (j, .waiting) = (j, place) := if_pos ⟨rfl, hc⟩
        rw [hmove]
        by_cases hp : p = .waiting
        · subst hp
          simp [hc, hplace]
        · by_cases hpp : p = place
          · simp [hc, hpp, hplace]
          · simp [hp, hpp, Ne.symm hpp, Ne.symm hp]
      | false =>
        have hmove : move called place (j, .waiting) = (j, .waiting) := if_neg (by simp [hc])
        rw [hmove]
        by_cases hp : p = .waiting
        · simp [hc, hp]
        · simp [hc, hp, Ne.symm hp]
    · have hmove : move called place (j, q) = (j, q) := if_neg fun h => hq h.1
      rw [hmove]
      by_cases hp : p = .waiting
      · simp [hp, hq]
      · by_cases hpp : p = place
        · simp [hpp, hplace, he, hq]
        · simp [hp, hpp]

end Placed

theorem of_append (ops : List (DepotOperation σ)) (op : DepotOperation σ) :
    of (ops ++ [op]) = (of ops).enter op := by
  rw [of, List.foldl_append]
  rfl

/-- The book holds the jobs that were accepted, in the order of their submission. -/
theorem fst_foldl_enter (ops : List (DepotOperation σ)) (b : JobBook) :
    (ops.foldl enter b).entries.map (·.1) = b.entries.map (·.1) ++ accepted b.rejecting ops := by
  have hmoved (es : List (QueuedJob × JobPlace)) (called : QueuedJob → Bool) (place : JobPlace) :
      (es.map (move called place)).map (·.1) = es.map (·.1) := by
    rw [List.map_map]
    exact List.map_congr_left fun e _ => fst_move e
  induction ops generalizing b with
  | nil => exact (List.append_nil _).symm
  | cons op ops ih =>
    rw [List.foldl_cons, ih]
    cases op with
    | submit topic attributes =>
      rw [accepted, enter]
      cases hr : b.rejecting with
      | true => simp [hr]
      | false => simp
    | setRejecting rejecting => rfl
    | hand c => exact congrArg (· ++ _) (hmoved b.entries _ _)
    | consume batch => rfl
    | takeAll => exact congrArg (· ++ _) (hmoved b.entries _ _)

end JobBook

namespace JobQueue

theorem submit_of_rejecting {q : JobQueue} (h : q.rejecting = true) (topic : String)
    (attributes : Attributes) :
    q.submit topic attributes = .error (.jobSubmission topic "queue is not accepting jobs") := if_pos h

theorem submit_of_not_rejecting {q : JobQueue} (h : q.rejecting = false) (topic : String)
    (attributes : Attributes) :
    q.submit topic attributes =
      .ok { q with jobs := q.jobs ++ [⟨topic, attributes⟩], submitted := q.submitted + 1 } :=
  if_neg (by rw [h]; decide)

end JobQueue

/-- A depot and the book of what was done with it. -/
structure Depot.Keeps (d : Depot σ) (b : JobBook) : Prop where
  rejecting : d.queue.rejecting = b.rejecting
  known : ∀ e ∈ b.entries, b.Knows e.2
  waiting : d.queue.jobs = b.jobsAt .waiting
  handed : d.batches.map (·.jobs) = (List.range b.batches).map fun i => b.jobsAt (.handed i)
  taken : d.takings = (List.range b.takings).map fun i => b.jobsAt (.taken i)
  submitted : d.queue.submitted = b.entries.length
  balance : d.queue.submitted =
    d.queue.jobs.length + (d.batches.map (·.jobs.length)).sum + (d.takings.map List.length).sum

namespace Depot

open JobBook (placed move placed_append)

variable {d : Depot σ} {b : JobBook}

theorem keeps_start (s : σ) : (start s).Keeps .empty := ⟨rfl, nofun, rfl, rfl, rfl, rfl, rfl⟩

theorem Keeps.submit (h : d.Keeps b) (topic : String) (attributes : Attributes) :
    (d.step (.submit topic attributes)).Keeps
      (b.enter (.submit topic attributes : DepotOperation σ)) := by
  cases hr : b.rejecting with
  | true =>
    have hstep : d.step (.submit topic attributes) = d := by
      rw [step, JobQueue.submit_of_rejecting (h.rejecting.trans hr)]
    have henter : b.enter (.submit topic attributes : DepotOperation σ) = b := if_pos hr
    rw [hstep, henter]
    exact h
  | false =>
    let job : QueuedJob := ⟨topic, attributes⟩
    have hstep : d.step (.submit topic attributes) =
        { d with queue := { d.queue with
            jobs := d.queue.jobs ++ [job], submitted := d.queue.submitted + 1 } } := by
      rw [step, JobQueue.submit_of_not_rejecting (h.rejecting.trans hr)]
    have henter : b.enter (.submit topic attributes : DepotOperation σ) =
        { b with entries := b.entries ++ [(job, .waiting)] } := if_neg (by rw [hr]; decide)
    have hplaced (p : JobPlace) :
        placed p (b.entries ++ [(job, .waiting)]) =
          b.jobsAt p ++ if p = .waiting then [job] else [] := by
      rw [placed_append, JobBook.placed_cons]
      exact congrArg (b.jobsAt p ++ ·) (if_congr eq_comm rfl rfl)
    have hsame (p : JobPlace) (hp : p ≠ .waiting) :
        placed p (b.entries ++ [(job, .waiting)]) = b.jobsAt p := by
      rw [hplaced, if_neg hp, List.append_nil]
    have hbalance := h.balance
    rw [hstep, henter]
    refine ⟨h.rejecting, ?_, ?_, ?_, ?_, ?_, ?_⟩
    · intro e he
      rcases List.mem_append.mp he with he | he
      · exact h.known e he
      · rw [List.mem_singleton.mp he]
        trivial
    · exact (congrArg (· ++ [job]) h.waiting).trans (hplaced .waiting).symm
    · exact h.handed.trans (List.map_congr_left fun i _ => (hsame (.handed i) nofun).symm)
    · exact h.taken.trans (List.map_congr_left fun i _ => (hsame (.taken i) nofun).symm)
    · dsimp only
      rw [h.submitted, List.length_append, List.length_singleton]
    · dsimp only
      rw [List.length_append, List.length_singleton]
      omega

/-- The jobs at a place behind an operation that takes jobs out of the queue. -/
theorem Keeps.placed_move (h : d.Keeps b) (called : QueuedJob → Bool) (place : JobPlace)
    (hplace : place ≠ .waiting) (hnew : ¬b.Knows place) (p : JobPlace) :
    placed p (b.entries.map (move called place)) =
      if p = .waiting then d.queue.jobs.filter (!called ·)
      else if p = place then d.queue.jobs.filter called
      else b.jobsAt p := by
  rw [h.waiting]
  exact JobBook.placed_move hplace (fun e he heq => hnew (heq ▸ h.known e he)) p

/-- An entry that is moved is known where it was, or at its new place. -/
theorem Keeps.known_move (h : d.Keeps b) {called : QueuedJob → Bool} {place : JobPlace}
    {b' : JobBook} (hplace : b'.Knows place) (hmore : ∀ p, b.Knows p → b'.Knows p) :
    ∀ e ∈ b.entries.map (move called place), b'.Knows e.2 := by
  intro e he
  obtain ⟨e, hmem, rfl⟩ := List.mem_map.mp he
  rw [move]
  split
  · exact hplace
  · exact hmore e.2 (h.known e hmem)

theorem Keeps.hand (h : d.Keeps b) (c : JobConsumer σ) :
    (d.step (.hand c)).Keeps (b.enter (.hand c)) := by
  have hplaced := h.placed_move (fun j => isBelow c.root j.topic) (.handed b.batches) nofun
    (Nat.lt_irrefl _)
  have hstep : d.step (.hand c) = { d with
      queue := (d.queue.takeBelow c.root).2
      batches := d.batches ++ [⟨c, [], (d.queue.takeBelow c.root).1⟩] } := rfl
  have hlength := JobQueue.length_takeBelow d.queue c.root
  have hbalance := h.balance
  rw [hstep]
  refine ⟨h.rejecting, ?_, (hplaced .waiting).symm, ?_, ?_, ?_, ?_⟩
  · refine h.known_move (Nat.lt_succ_self b.batches) fun p hp => ?_
    cases p with
    | waiting => trivial
    | handed i => exact Nat.lt_succ_of_lt hp
    | taken i => exact hp
  · show (d.batches ++ [_]).map _ = (List.range (b.batches + 1)).map _
    rw [List.map_append, h.handed, List.range_succ, List.map_append]
    congr 1
    · refine List.map_congr_left fun i hi => ?_
      have hne : i ≠ b.batches := Nat.ne_of_lt (List.mem_range.mp hi)
      refine ((hplaced (.handed i)).trans ?_).symm
      rw [if_neg nofun, if_neg fun h => hne (JobPlace.handed.inj h)]
    · have hnew := hplaced (.handed b.batches)
      rw [if_neg nofun, if_pos rfl] at hnew
      exact congrArg (fun js => [js]) hnew.symm
  · exact h.taken.trans (List.map_congr_left fun i _ => (hplaced (.taken i)).symm)
  · exact h.submitted.trans (List.length_map ..).symm
  · have hjobs : (Batch.jobs ⟨c, [], (d.queue.takeBelow c.root).1⟩).length =
        (d.queue.takeBelow c.root).1.length := rfl
    dsimp only
    rw [List.map_append, List.sum_append, List.map_singleton, List.sum_singleton, hjobs]
    have hsame : (d.queue.takeBelow c.root).2.submitted = d.queue.submitted := rfl
    omega

theorem Keeps.takeAll (h : d.Keeps b) :
    (d.step .takeAll).Keeps (b.enter (.takeAll : DepotOperation σ)) := by
  have hplaced := h.placed_move (fun _ => true) (.taken b.takings) nofun (Nat.lt_irrefl _)
  have hstep : d.step .takeAll =
      { d with queue := { d.queue with jobs := [] }, takings := d.takings ++ [d.queue.jobs] } := rfl
  have hbalance := h.balance
  rw [hstep]
  refine ⟨h.rejecting, ?_, ?_, ?_, ?_, h.submitted.trans (List.length_map ..).symm, ?_⟩
  · refine h.known_move (Nat.lt_succ_self b.takings) fun p hp => ?_
    cases p with
    | waiting => trivial
    | handed i => exact hp
    | taken i => exact Nat.lt_succ_of_lt hp
  · have hnone := hplaced .waiting
    rw [if_pos rfl] at hnone
    exact (hnone.trans (List.filter_eq_nil_iff.mpr fun _ _ => nofun)).symm
  · exact h.handed.trans (List.map_congr_left fun i _ => (hplaced (.handed i)).symm)
  · show d.takings ++ [_] = (List.range (b.takings + 1)).map _
    rw [h.taken, List.range_succ, List.map_append]
    congr 1
    · refine List.map_congr_left fun i hi => ?_
      have hne : i ≠ b.takings := Nat.ne_of_lt (List.mem_range.mp hi)
      refine ((hplaced (.taken i)).trans ?_).symm
      rw [if_neg nofun, if_neg fun h => hne (JobPlace.taken.inj h)]
    · have hnew := hplaced (.taken b.takings)
      rw [if_neg nofun, if_pos rfl, List.filter_eq_self.mpr fun _ _ => rfl] at hnew
      exact congrArg (fun js => [js]) hnew.symm
  · dsimp only
    rw [List.length_nil, List.map_append, List.sum_append, List.map_singleton, List.sum_singleton]
    omega

theorem jobs_work {batch : Nat} {held : Batch σ} {j : QueuedJob} {rest : List QueuedJob}
    (hb : d.batches[batch]? = some held) (hp : held.pending = j :: rest) :
    (d.work batch held j rest).batches.map (·.jobs) = d.batches.map (·.jobs) := by
  rw [work, List.map_set]
  refine List.ext_getElem? fun i => ?_
  rw [List.getElem?_set]
  split
  · next hi =>
    subst hi
    have hlt : batch < (d.batches.map (·.jobs)).length := by
      rw [List.length_map]
      exact (List.getElem?_eq_some_iff.mp hb).1
    rw [if_pos hlt, List.getElem?_map, hb, Option.map_some, Batch.jobs, Batch.jobs, hp]
    simp
  · rfl

theorem Keeps.consume (h : d.Keeps b) (batch : Nat) : (d.step (.consume batch)).Keeps b := by
  cases hb : d.batches[batch]? with
  | none =>
    have hstep : d.step (.consume batch) = d := by simp only [Depot.step, hb]
    rw [hstep]
    exact h
  | some held =>
    cases hp : held.pending with
    | nil =>
      have hstep : d.step (.consume batch) = d := by simp only [Depot.step, hb, hp]
      rw [hstep]
      exact h
    | cons j rest =>
      have hstep : d.step (.consume batch) = d.work batch held j rest := by
        simp only [Depot.step, hb, hp]
      have hjobs := jobs_work hb hp
      have hsizes : (d.work batch held j rest).batches.map (·.jobs.length) =
          d.batches.map (·.jobs.length) := by
        have hlengths := congrArg (List.map List.length) hjobs
        rwa [List.map_map, List.map_map] at hlengths
      rw [hstep]
      refine ⟨h.rejecting, h.known, h.waiting, hjobs.trans h.handed, h.taken, h.submitted, ?_⟩
      rw [hsizes]
      exact h.balance

theorem Keeps.step (h : d.Keeps b) (op : DepotOperation σ) : (d.step op).Keeps (b.enter op) := by
  cases op with
  | submit topic attributes => exact h.submit topic attributes
  | setRejecting rejecting =>
    exact ⟨rfl, h.known, h.waiting, h.handed, h.taken, h.submitted, h.balance⟩
  | hand c => exact h.hand c
  | consume batch => exact h.consume batch
  | takeAll => exact h.takeAll

theorem keeps_run (ops : List (DepotOperation σ)) (s : σ) : (run ops s).Keeps (.of ops) := by
  induction ops using List.reverseRecOn with
  | nil => exact keeps_start s
  | append_singleton ops op ih =>
    rw [run, List.foldl_append, JobBook.of_append]
    exact ih.step op

end Depot

namespace JobQueue

variable {consume : QueuedJob → σ → JobOutcome × σ}

/-- What a consumer changes when it is called for some jobs in turn. -/
def stateAfter (consume : QueuedJob → σ → JobOutcome × σ) (js : List QueuedJob) (s : σ) : σ :=
  js.foldl (fun s j => (consume j s).2) s

theorem consumeEach_snd (js : List QueuedJob) (s : σ) :
    (consumeEach consume js s).2 = stateAfter consume js s := by
  induction js generalizing s with
  | nil => rfl
  | cons j js ih =>
    rw [consumeEach]
    exact ih (consume j s).2

/-- Each outcome is what the consumer says of the job, as it is behind the jobs before. -/
theorem consumeEach_eq (js : List QueuedJob) (s : σ) (i : Nat) :
    (consumeEach consume js s).1[i]? =
      js[i]?.map fun j => (j, (consume j (stateAfter consume (js.take i) s)).1) := by
  induction js generalizing s i with
  | nil => rfl
  | cons j js ih =>
    rw [consumeEach]
    cases i with
    | zero => rfl
    | succ i => exact ih (consume j s).2 i

end JobQueue

namespace Depot

/-- A consumer that goes through its batch without anything in between. -/
theorem foldl_consume (q : JobQueue) (batches : List (Batch σ)) (takings : List (List QueuedJob))
    (c : JobConsumer σ) (outcomes : List (QueuedJob × JobOutcome)) (js : List QueuedJob) (s : σ) :
    (List.replicate js.length (.consume batches.length)).foldl step
        ⟨q, batches ++ [⟨c, outcomes, js⟩], takings, s⟩ =
      ⟨q, batches ++ [⟨c, outcomes ++ (JobQueue.consumeEach c.consume js s).1, []⟩], takings,
        (JobQueue.consumeEach c.consume js s).2⟩ := by
  induction js generalizing outcomes s with
  | nil => rw [JobQueue.consumeEach, List.append_nil]; rfl
  | cons j js ih =>
    let s' := (c.consume j s).2
    let outcomes' := outcomes ++ [(j, (c.consume j s).1)]
    have hstep : step ⟨q, batches ++ [⟨c, outcomes, j :: js⟩], takings, s⟩ (.consume batches.length) =
        ⟨q, batches ++ [⟨c, outcomes', js⟩], takings, s'⟩ := by
      simp only [step, List.getElem?_concat_length, work, List.set_append_right _ _ (Nat.le_refl _),
        Nat.sub_self, List.set_cons_zero]
      rfl
    rw [List.length_cons, List.replicate_succ, List.foldl_cons, hstep, ih, JobQueue.consumeEach]
    simp only [outcomes', s', List.append_assoc, List.singleton_append]

/-- A batch that is consumed without anything in between is one run of the waiting jobs. -/
theorem run_hand (ops : List (DepotOperation σ)) (c : JobConsumer σ) (s : σ) :
    let d := run ops s
    let ran := d.queue.runPending c.root c.consume d.state
    run (ops ++ .hand c :: List.replicate (d.queue.takeBelow c.root).1.length
        (.consume d.batches.length)) s =
      ⟨ran.2.1, d.batches ++ [⟨c, ran.1, []⟩], d.takings, ran.2.2⟩ := by
  intro d ran
  rw [run, List.foldl_append, List.foldl_cons]
  exact foldl_consume (d.queue.takeBelow c.root).2 d.batches d.takings c [] _ d.state

end Depot

end Sentinel
