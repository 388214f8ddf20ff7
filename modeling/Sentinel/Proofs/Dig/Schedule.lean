import Mathlib.Algebra.GroupWithZero.Nat
import Sentinel.Proofs.Dig.Balance
import Sentinel.Proofs.Dig.Incremental
/-!
# Schedules of workers

Several workers share the tasks of a change digger and take turns in any order, while notifications
come in. Each accepted notification is worked off exactly once, and a rejected one never; which jobs
come of it depends on neither the number of workers nor the schedule.

1. `accounts_notify`, `accounts_work`: what a notification and what a turn of a worker does to the
   books on a crew.
2. `accounts_run`: the books balance after any number of turns.
3. `exists_turns_isDone`: workers who go on come to an end.
4. `run_balances`: the answers to notifications, and what all work together comes to.
-/

namespace Sentinel

open ChangeDigger (candidateJobs taskJobs)

/-- The jobs that a worker has still to submit for its task. -/
def Errand.jobs (settings : ChangeDigSettings) (e : Errand) : List ScanJob :=
  e.candidates.flatMap (candidateJobs settings e.session e.userId)

/-- What a crew has in hand, each task with the number of the notification that it came from, and the
jobs that were submitted, each with the number of the notification that it was for. -/
structure Ledger where
  log : List (Nat × ScanJob)
  waiting : List (Nat × DigTask)
  busy : List (Option (Nat × Errand))

namespace Ledger

/-- What is left of the tasks that wait and of those that are worked on. -/
def left (r : Repository) (settings : ChangeDigSettings) (l : Ledger) : List (Nat × List ScanJob) :=
  l.waiting.map (fun t => (t.1, taskJobs settings r t.2)) ++
    l.busy.reduceOption.map (fun e => (e.1, e.2.jobs settings))

/-- The ledger when a worker gets something else to do. -/
def assign (l : Ledger) (worker : Nat) (e : Option (Nat × Errand)) : Ledger :=
  { l with busy := l.busy.set worker e }

variable {l : Ledger} {worker : Nat}

theorem left_assign (r : Repository) (settings : ChangeDigSettings) {old : Option (Nat × Errand)}
    (h : l.busy[worker]? = some old) (new : Option (Nat × Errand)) :
    List.Perm (old.toList.map (fun e => (e.1, e.2.jobs settings)) ++ (l.assign worker new).left r settings)
      (new.toList.map (fun e => (e.1, e.2.jobs settings)) ++ l.left r settings) := by
  have hset := (perm_reduceOption_set h new).map fun e => (e.1, e.2.jobs settings)
  rw [List.map_append, List.map_append] at hset
  exact ((List.perm_append_comm_assoc ..).trans (hset.append_left _)).trans (List.perm_append_comm_assoc ..)

end Ledger

namespace Crew

variable {r : Repository} {start c : Crew} {l : Ledger} {shares : List (List ScanJob)}

/-- A ledger is right about a crew that began with no tasks, and it balances. -/
structure Accounts (r : Repository) (start : Crew) (shares : List (List ScanJob)) (c : Crew)
    (l : Ledger) : Prop where
  digger : c.digger = { start.digger with waiting := l.waiting.map (·.2) }
  workers : c.workers = l.busy.map (Option.map (·.2))
  staff : c.workers.length = start.workers.length
  queue : c.queue = start.queue.extended (l.log.map (·.2))
  room : c.digger.waiting.length ≤ start.digger.settings.capacity
  balance : Balance shares l.log (l.left r start.digger.settings)

/-- The jobs that a notification asks for. -/
def share (r : Repository) (start : Crew) (n : Notification) : List ScanJob :=
  taskJobs start.digger.settings r (start.digger.taskOf n)

/-- The notifications that were accepted, in order. -/
def accepted (answers : List (Notification × Except DispatchError Nat)) : List Notification :=
  (answers.filter (·.2.isOk)).map (·.1)

/-- A notification that is accepted has a share, and one that is rejected has none. -/
theorem accounts_notify (h : Accounts r start shares c l) (n : Notification) :
    ∃ l', Accounts r start (shares ++ (accepted [(n, (c.notify n).1)]).map (share r start))
      (c.notify n).2 l' := by
  have htask : c.digger.taskOf n = start.digger.taskOf n := by
    rw [h.digger]
    rfl
  have hsettings : c.digger.settings = start.digger.settings := by rw [h.digger]
  have haccept := h.balance.accept (share r start n)
  rcases ChangeDigger.receive_cases c.digger n with ⟨hnil, hn⟩ | ⟨-, hroom, hn⟩ | ⟨-, -, hn⟩
  · have hnotify : c.notify n = (.ok 0, c) := by
      rw [notify, hn]
    rw [hnotify]
    -- There is nothing to do for it, so its share is closed at once.
    have hshare : share r start n = [] := by
      rw [htask] at hnil
      exact ChangeDigger.taskJobs_of_candidates_nil hnil
    rw [hshare] at haccept
    refine ⟨l, h.digger, h.workers, h.staff, h.queue, h.room, ?_⟩
    show Balance (shares ++ [share r start n]) _ _
    rw [hshare]
    exact haccept.drop
  · rw [htask] at hn
    have hnotify : c.notify n = (.ok (start.digger.taskOf n).candidates.length,
        { c with digger.waiting := c.digger.waiting ++ [start.digger.taskOf n] }) := by
      rw [notify, hn]
    rw [hnotify]
    refine ⟨{ l with waiting := l.waiting ++ [(shares.length, start.digger.taskOf n)] },
      ?_, h.workers, h.staff, h.queue, ?_, haccept.perm ?_⟩
    · show ({ c.digger with waiting := _ } : ChangeDigger) = _
      rw [h.digger, List.map_append]
      rfl
    · show (c.digger.waiting ++ [start.digger.taskOf n]).length ≤ _
      rw [List.length_append, List.length_singleton, ← hsettings]
      exact hroom
    · rw [Ledger.left, Ledger.left, List.map_append, List.append_assoc]
      exact List.perm_middle.symm
  · have hnotify : c.notify n = (.error (.rejected "change dig queue is full"), c) := by
      rw [notify, hn]
    rw [hnotify]
    refine ⟨l, ?_⟩
    show Accounts r start (shares ++ []) c l
    rwa [List.append_nil]

/-- An idle worker takes a task over as a whole. -/
theorem accounts_take (h : Accounts r start shares c l) {worker : Nat}
    (hi : l.busy[worker]? = some none) : ∃ l', Accounts r start shares (c.take r worker) l' := by
  have hwaiting : c.digger.waiting = l.waiting.map (·.2) := by rw [h.digger]
  rw [take]
  cases hw : c.digger.waiting with
  | nil => exact ⟨l, h⟩
  | cons task waiting =>
    rw [hw] at hwaiting
    obtain ⟨⟨i, task⟩, rest, hl, rfl, rfl⟩ := List.map_eq_cons_iff.mp hwaiting.symm
    have hdigger : ({ c.digger with waiting := rest.map (·.2) } : ChangeDigger) =
        { start.digger with waiting := rest.map (·.2) } := by rw [h.digger]
    have hroom : (rest.map (·.2)).length ≤ start.digger.settings.capacity := by
      have hroom := h.room
      rw [hw] at hroom
      exact Nat.le_of_succ_le hroom
    have hleft : l.left r start.digger.settings =
        (i, taskJobs start.digger.settings r task) ::
          ({ l with waiting := rest } : Ledger).left r start.digger.settings := by
      rw [Ledger.left, hl]
      rfl
    have hbalance := h.balance
    rw [hleft] at hbalance
    dsimp only
    cases hsession : Session.openOn r with
    | error e =>
      have hnone : taskJobs start.digger.settings r task = [] := by rw [taskJobs, hsession]
      rw [hnone] at hbalance
      exact ⟨{ l with waiting := rest }, hdigger, h.workers, h.staff, h.queue, hroom, hbalance.drop⟩
    | ok session =>
      let errand : Errand := ⟨session, task.userId, task.candidates, {}⟩
      have hjobs : taskJobs start.digger.settings r task = errand.jobs start.digger.settings := by
        rw [taskJobs, hsession]
        rfl
      have hperm := Ledger.left_assign r start.digger.settings
        (l := { l with waiting := rest }) hi (some (i, errand))
      refine ⟨({ l with waiting := rest } : Ledger).assign worker (some (i, errand)),
        hdigger, ?_, ?_, h.queue, hroom, ?_⟩
      · show c.workers.set worker (some errand) = _
        rw [h.workers, Ledger.assign, List.map_set]
        rfl
      · show (c.workers.set worker (some errand)).length = _
        rw [List.length_set]
        exact h.staff
      · rw [hjobs] at hbalance
        exact hbalance.perm hperm.symm

/-- A busy worker submits the jobs for one property of its task, or is done with it. -/
theorem accounts_resolve (h : Accounts r start shares c l) (hs : start.queue.rejecting = false)
    {worker i : Nat} {e : Errand} (hi : l.busy[worker]? = some (some (i, e))) :
    ∃ l', Accounts r start shares (c.resolve worker e) l' := by
  have hsettings : c.digger.settings = start.digger.settings := by rw [h.digger]
  have hworkers (new : Option (Nat × Errand)) :
      c.workers.set worker (new.map (·.2)) = (l.assign worker new).busy.map (Option.map (·.2)) := by
    rw [h.workers, Ledger.assign, List.map_set]
  have hstaff (new : Option Errand) : (c.workers.set worker new).length = start.workers.length := by
    rw [List.length_set]
    exact h.staff
  -- The share of the task stands before the others, and it is put down.
  have hleft := Ledger.left_assign r start.digger.settings hi none
  have hfront := h.balance.perm hleft.symm
  rw [resolve]
  cases hc : e.candidates with
  | nil =>
    have hnone : e.jobs start.digger.settings = [] := by
      rw [Errand.jobs, hc]
      rfl
    refine ⟨l.assign worker none, h.digger, hworkers none, hstaff none, h.queue, h.room, ?_⟩
    simp only [Option.toList_some, List.map_cons, List.map_nil, List.singleton_append, hnone] at hfront
    exact hfront.drop
  | cons path candidates =>
    let s := ((ChangeDigger.digCandidate c.digger.settings e.session e.userId path).run
      ⟨c.queue, c.trail, e.summary⟩).2
    let e' : Errand := { e with candidates, summary := s.summary }
    let sent := candidateJobs start.digger.settings e.session e.userId path
    have hjobs : e.jobs start.digger.settings = sent ++ e'.jobs start.digger.settings := by
      rw [Errand.jobs, hc]
      rfl
    have hopen : c.queue.rejecting = false := by
      rw [h.queue]
      exact hs
    have hqueue : s.queue = c.queue.extended sent := by
      show _ = c.queue.extended (candidateJobs start.digger.settings e.session e.userId path)
      rw [← hsettings]
      exact ChangeDigger.submits_digCandidate path ⟨c.queue, c.trail, e.summary⟩ hopen
    have hput : List.Perm ((i, e'.jobs start.digger.settings) ::
        (l.assign worker none).left r start.digger.settings)
        ((l.assign worker (some (i, e'))).left r start.digger.settings) := by
      have hidle : (l.assign worker none).busy[worker]? = some none := by
        obtain ⟨hlt, -⟩ := List.getElem?_eq_some_iff.mp hi
        exact List.getElem?_set_self hlt
      have hperm := Ledger.left_assign r start.digger.settings hidle (some (i, e'))
      have htwice : (l.assign worker none).assign worker (some (i, e')) = l.assign worker (some (i, e')) := by
        rw [Ledger.assign, Ledger.assign, Ledger.assign, List.set_set]
      rw [htwice] at hperm
      exact hperm.symm
    refine ⟨{ l.assign worker (some (i, e')) with log := l.log ++ sent.map fun j => (i, j) },
      h.digger, hworkers (some (i, e')), hstaff (some e'), ?_, h.room, ?_⟩
    · show s.queue = _
      have hlog : (l.log ++ sent.map fun j => (i, j)).map (·.2) = l.log.map (·.2) ++ sent := by
        rw [List.map_append, List.map_map]
        exact congrArg _ (List.map_id _)
      rw [hqueue, h.queue, hlog, JobQueue.extended_append]
    · simp only [Option.toList_some, List.map_cons, List.map_nil, List.singleton_append, hjobs] at hfront
      exact hfront.advance.perm hput

/-- The turn of a worker keeps the books balanced. -/
theorem accounts_work (h : Accounts r start shares c l) (hs : start.queue.rejecting = false)
    (worker : Nat) : ∃ l', Accounts r start shares (c.work r worker) l' := by
  have hworker : c.workers[worker]? = (l.busy[worker]?).map (Option.map (·.2)) := by
    rw [h.workers, List.getElem?_map]
  rw [work, hworker]
  rcases hi : l.busy[worker]? with _ | _ | ⟨i, e⟩
  · exact ⟨l, h⟩
  · exact accounts_take h hi
  · exact accounts_resolve h hs hi

theorem accounts_start (r : Repository) (settings : ChangeDigSettings) (pattern : PathPattern)
    (queue : JobQueue) (trail : Trail) :
    Accounts r (Crew.start settings pattern queue trail) [] (Crew.start settings pattern queue trail)
      ⟨[], [], List.replicate settings.workers none⟩ where
  digger := rfl
  workers := by
    rw [List.map_replicate]
    rfl
  staff := rfl
  queue := queue.extended_nil.symm
  room := Nat.zero_le _
  balance := by
    rw [Ledger.left, List.reduceOption_replicate_none]
    exact Balance.start

theorem accepted_cons (a : Notification × Except DispatchError Nat)
    (as : List (Notification × Except DispatchError Nat)) :
    accepted (a :: as) = accepted [a] ++ accepted as := by
  rw [accepted, accepted, accepted, ← List.map_append, ← List.filter_append]
  rfl

/-- After any turns the books balance, with the shares of the notifications that were accepted. -/
theorem accounts_run (h : Accounts r start shares c l) (hs : start.queue.rejecting = false)
    (turns : List Turn) :
    ∃ l', Accounts r start (shares ++ (accepted (run r turns c).1).map (share r start))
      (run r turns c).2 l' := by
  induction turns generalizing c shares l with
  | nil =>
    refine ⟨l, ?_⟩
    show Accounts r start (shares ++ []) c l
    rwa [List.append_nil]
  | cons turn turns ih =>
    cases turn with
    | notify n =>
      obtain ⟨l₁, h₁⟩ := accounts_notify h n
      obtain ⟨l', h'⟩ := ih h₁
      refine ⟨l', ?_⟩
      show Accounts r start (shares ++ (accepted ((n, (c.notify n).1) ::
        (run r turns (c.notify n).2).1)).map (share r start)) (run r turns (c.notify n).2).2 l'
      rw [accepted_cons, List.map_append, ← List.append_assoc]
      exact h'
    | work worker =>
      obtain ⟨l₁, h₁⟩ := accounts_work h hs worker
      exact ih h₁

/-- Where all work is done, each share was submitted, in its order, and nothing else was. -/
theorem Accounts.of_isDone (h : Accounts r start shares c l) (hdone : c.IsDone) :
    (∀ i, sentFor i l.log = shares.getD i []) ∧ List.Perm (l.log.map (·.2)) shares.flatten := by
  have hwaiting : l.waiting = [] := by
    have hnone := hdone.1
    rw [h.digger] at hnone
    exact List.map_eq_nil_iff.mp hnone
  have hbusy : l.busy.reduceOption = [] := by
    refine List.eq_nil_iff_forall_not_mem.mpr fun e he => ?_
    have hmem : some e.2 ∈ c.workers := by
      rw [h.workers]
      exact List.mem_map.mpr ⟨some e, List.reduceOption_mem_iff.mp he, rfl⟩
    cases hdone.2 _ hmem
  have hbalance := h.balance
  rw [Ledger.left, hwaiting, hbusy] at hbalance
  exact hbalance.of_closed

/-- How much there is to do for the workers of a crew. -/
def effort (c : Crew) : Nat :=
  (c.digger.waiting.map fun t => t.candidates.length + 2).sum +
    (c.workers.reduceOption.map fun e => e.candidates.length + 1).sum

theorem effort_assign {worker : Nat} {old : Option Errand} (h : c.workers[worker]? = some old)
    (new : Option Errand) :
    (old.toList.map fun e => e.candidates.length + 1).sum + (c.assign worker new).effort =
      (new.toList.map fun e => e.candidates.length + 1).sum + c.effort := by
  have hsum := ((perm_reduceOption_set h new).map fun e => e.candidates.length + 1).sum_nat
  rw [List.map_append, List.map_append, List.sum_append, List.sum_append] at hsum
  dsimp only [effort, assign]
  omega

theorem effort_resolve_lt {worker : Nat} {e : Errand} (hi : c.workers[worker]? = some (some e)) :
    (c.resolve worker e).effort < c.effort := by
  rw [resolve]
  cases hc : e.candidates with
  | nil =>
    have heffort := effort_assign hi none
    simp only [Option.toList_some, Option.toList_none, List.map_cons, List.map_nil, List.sum_cons,
      List.sum_nil] at heffort
    show (c.assign worker none).effort < c.effort
    omega
  | cons path candidates =>
    let s := ((ChangeDigger.digCandidate c.digger.settings e.session e.userId path).run
      ⟨c.queue, c.trail, e.summary⟩).2
    let e' : Errand := { e with candidates, summary := s.summary }
    let c' : Crew := { c with queue := s.queue, trail := s.trail }
    have heffort := effort_assign (c := c') hi (some e')
    have hsame : c'.effort = c.effort := rfl
    have hless : e.candidates.length = e'.candidates.length + 1 := by
      rw [hc]
      rfl
    simp only [Option.toList_some, List.map_cons, List.map_nil, List.sum_cons, List.sum_nil, hless,
      hsame] at heffort
    show (c'.assign worker (some e')).effort < c.effort
    omega

theorem effort_take_lt {worker : Nat} (hi : c.workers[worker]? = some none)
    (hw : c.digger.waiting ≠ []) : (c.take r worker).effort < c.effort := by
  obtain ⟨task, waiting, hwait⟩ := List.exists_cons_of_ne_nil hw
  let c' : Crew := { c with digger.waiting := waiting }
  have htaken : c'.effort + (task.candidates.length + 2) = c.effort := by
    show (waiting.map fun t => t.candidates.length + 2).sum +
      (c.workers.reduceOption.map fun e => e.candidates.length + 1).sum + _ = _
    rw [effort, hwait, List.map_cons, List.sum_cons]
    omega
  rw [take, hwait]
  dsimp only
  cases Session.openOn r with
  | error e =>
    show c'.effort < c.effort
    omega
  | ok session =>
    let errand : Errand := ⟨session, task.userId, task.candidates, {}⟩
    have heffort := effort_assign (c := c') hi (some errand)
    simp only [Option.toList_some, Option.toList_none, List.map_cons, List.map_nil, List.sum_cons,
      List.sum_nil] at heffort
    have hsize : errand.candidates.length = task.candidates.length := rfl
    show (c'.assign worker (some errand)).effort < c.effort
    omega

theorem length_workers_work (worker : Nat) :
    (c.work r worker).workers.length = c.workers.length := by
  rw [work]
  split
  · rfl
  · rw [take]
    cases c.digger.waiting with
    | nil => rfl
    | cons task waiting =>
      dsimp only
      cases Session.openOn r with
      | error e => rfl
      | ok session => exact List.length_set
  · next e _ =>
    rw [resolve]
    cases e.candidates <;> exact List.length_set

/-- As long as there is something to do, there is a worker whose turn leaves less to do. -/
theorem exists_effort_work_lt (h : ¬c.IsDone) (hw : 0 < c.workers.length) :
    ∃ worker, (c.work r worker).effort < c.effort := by
  by_cases hbusy : ∃ (worker : Nat) (e : Errand), c.workers[worker]? = some (some e)
  · obtain ⟨worker, e, hi⟩ := hbusy
    refine ⟨worker, ?_⟩
    rw [work, hi]
    exact effort_resolve_lt hi
  · -- All workers are idle, and any one of them can take the oldest task.
    have hidle {worker : Nat} (hlt : worker < c.workers.length) : c.workers[worker] = none := by
      cases hi : c.workers[worker] with
      | none => rfl
      | some e => exact absurd ⟨worker, e, by rw [List.getElem?_eq_getElem hlt, hi]⟩ hbusy
    have hwaiting : c.digger.waiting ≠ [] := by
      refine fun hnil => h ⟨hnil, fun e he => ?_⟩
      obtain ⟨worker, hlt, rfl⟩ := List.mem_iff_getElem.mp he
      exact hidle hlt
    have hfirst : c.workers[0]? = some none := by rw [List.getElem?_eq_getElem hw, hidle hw]
    refine ⟨0, ?_⟩
    rw [work, hfirst]
    exact effort_take_lt hfirst hwaiting

/-- Workers who go on come to an end of what there is to do. -/
theorem exists_turns_isDone (hw : 0 < c.workers.length) :
    ∃ workers : List Nat, (run r (workers.map Turn.work) c).2.IsDone := by
  induction heffort : c.effort using Nat.strongRecOn generalizing c with
  | ind effort ih =>
    by_cases hdone : c.IsDone
    · exact ⟨[], hdone⟩
    · obtain ⟨worker, hlt⟩ := exists_effort_work_lt (r := r) hdone hw
      have hstaff : 0 < (c.work r worker).workers.length := by rwa [length_workers_work]
      obtain ⟨workers, hworkers⟩ := ih _ (heffort ▸ hlt) hstaff rfl
      exact ⟨worker :: workers, hworkers⟩

/-- Where all work is done, the queue has the shares of the notifications that were accepted, each
in its order, and nothing else. -/
theorem log_of_isDone (r : Repository) (settings : ChangeDigSettings) (pattern : PathPattern)
    (queue : JobQueue) (trail : Trail) (hq : queue.rejecting = false) (turns : List Turn) :
    let start := Crew.start settings pattern queue trail
    let ran := run r turns start
    ran.2.IsDone → ∃ log : List (Nat × ScanJob), ran.2.queue = queue.extended (log.map (·.2)) ∧
      (∀ i, sentFor i log = ((accepted ran.1).map (share r start)).getD i []) ∧
      List.Perm (log.map (·.2)) ((accepted ran.1).flatMap (share r start)) := by
  intro start ran hdone
  obtain ⟨l, hl⟩ := accounts_run (accounts_start r settings pattern queue trail) hq turns
  obtain ⟨heach, hall⟩ := hl.of_isDone hdone
  exact ⟨l.log, hl.queue, heach, hall⟩

/-- What becomes of notifications to a crew, and what all work comes to in the end. At most as many
tasks wait as there are places; a notification with something to do is rejected exactly if every
place is taken. Once all is done, every notification that was accepted has been worked off in its own
order, as a worker alone would do it, and none that was rejected: so neither the number of workers
nor the schedule tells in the jobs that were submitted. -/
theorem run_balances (r : Repository) (settings : ChangeDigSettings) (pattern : PathPattern)
    (queue : JobQueue) (trail : Trail) (hq : queue.rejecting = false) (turns : List Turn) :
    let start := Crew.start settings pattern queue trail
    let ran := run r turns start
    let c := ran.2
    c.digger.waiting.length ≤ settings.capacity ∧
      (∀ n, let task := start.digger.taskOf n
        (task.candidates = [] → c.notify n = (.ok 0, c)) ∧
        (task.candidates ≠ [] → c.digger.waiting.length = settings.capacity →
          c.notify n = (.error (.rejected "change dig queue is full"), c)) ∧
        (task.candidates ≠ [] → c.digger.waiting.length ≠ settings.capacity →
          c.notify n = (.ok task.candidates.length,
            { c with digger.waiting := c.digger.waiting ++ [task] }))) ∧
      (∀ n s, s.queue.rejecting = false →
        ((ChangeDigger.runTask settings r (start.digger.taskOf n)).run s).2.queue =
          s.queue.extended (share r start n)) ∧
      (c.IsDone → ∃ log : List (Nat × ScanJob), c.queue = queue.extended (log.map (·.2)) ∧
        (∀ i, sentFor i log = ((accepted ran.1).map (share r start)).getD i []) ∧
        List.Perm (log.map (·.2)) ((accepted ran.1).flatMap (share r start))) ∧
      (c.IsDone → ∀ workers capacity turns',
        let other := run r turns' (Crew.start { settings with workers, capacity } pattern queue trail)
        other.2.IsDone → List.Perm (accepted other.1) (accepted ran.1) →
          List.Perm other.2.queue.jobs c.queue.jobs) ∧
      (0 < settings.workers → ∃ workers : List Nat, (run r (workers.map Turn.work) c).2.IsDone) := by
  intro start ran c
  obtain ⟨l, hl⟩ := accounts_run (accounts_start r settings pattern queue trail) hq turns
  have hl : Accounts r start _ c l := hl
  have hlog := log_of_isDone r settings pattern queue trail hq turns
  refine ⟨hl.room, ?_, ?_, hlog, ?_, ?_⟩
  · intro n task
    have htask : c.digger.taskOf n = task := by
      rw [hl.digger]
      rfl
    have hsettings : c.digger.settings = settings := by
      rw [hl.digger]
      rfl
    have hroom : c.digger.waiting.length ≤ c.digger.settings.capacity := by
      rw [hsettings]
      exact hl.room
    have hcases := ChangeDigger.receive_cases c.digger n
    rw [htask] at hcases
    rw [← hsettings]
    rcases hcases with ⟨hnil, hn⟩ | ⟨hne, hlt, hn⟩ | ⟨hne, hge, hn⟩
    · exact ⟨fun _ => by rw [notify, hn], fun h => absurd hnil h, fun h => absurd hnil h⟩
    · exact ⟨fun h => absurd h hne, fun _ h => absurd h (by omega), fun _ _ => by rw [notify, hn]⟩
    · exact ⟨fun h => absurd h hne, fun _ _ => by rw [notify, hn], fun _ h => absurd h (by omega)⟩
  · intro n s hs
    exact ChangeDigger.submits_runTask r (start.digger.taskOf n) s hs
  · intro hdone workers capacity turns' other hother haccepted
    obtain ⟨log, hqueue, -, hperm⟩ := hlog hdone
    obtain ⟨log', hqueue', -, hperm'⟩ :=
      log_of_isDone r { settings with workers, capacity } pattern queue trail hq turns' hother
    -- A share depends on neither the workers nor the places.
    have hshares : List.Perm (log'.map (·.2)) (log.map (·.2)) :=
      (hperm'.trans (haccepted.flatMap_right (share r start))).trans hperm.symm
    have hqueue : c.queue = queue.extended (log.map (·.2)) := hqueue
    have hqueue' : other.2.queue = queue.extended (log'.map (·.2)) := hqueue'
    rw [hqueue, hqueue']
    exact (hshares.map ScanJob.queued).append_left queue.jobs
  · intro hw
    have hstaff : c.workers.length = settings.workers := by
      rw [hl.staff]
      exact List.length_replicate
    exact exists_turns_isDone (by rwa [hstaff])

/-- Two workers and one place for a task: a commit to a node, another one below it that comes too
early, the same one again, and turns in which the second task overtakes the first. -/
def crowded : List Turn :=
  let upper : Notification := ⟨"/a", ["names"], ["data", "names"], some "eve"⟩
  let lower : Notification := ⟨"/a/b", [], ["title"], some "adam"⟩
  [.notify upper, .notify lower, .work 0, .notify lower, .work 1, .work 0, .work 1, .work 1, .work 0,
    .work 0]

/-- A digger for short texts with two workers and one place. -/
def crowdedSettings : ChangeDigSettings :=
  { propertyType := .string, maxLength := 1, workers := 2, capacity := 1 }

/-- The notification that comes too early is rejected and never worked off. The other two come to one
job each, as does any other schedule in which they are accepted. -/
theorem run_balances_crowded :
    let ran := run ChangeDigger.filed crowded
      (Crew.start crowdedSettings ChangeDigger.belowNode .empty [])
    ran.1.map (·.2) = [.ok 2, .error (.rejected "change dig queue is full"), .ok 1] ∧
      (∃ log : List (Nat × ScanJob), log.length = 2 ∧
        ran.2.queue = JobQueue.empty.extended (log.map (·.2)) ∧ sentFor 2 log = []) ∧
      ∀ workers capacity turns,
        let other := run ChangeDigger.filed turns
          (Crew.start { crowdedSettings with workers, capacity } ChangeDigger.belowNode .empty [])
        other.2.IsDone → List.Perm (accepted other.1) (accepted ran.1) →
          other.2.queue.jobs.length = 2 := by
  have hall := run_balances ChangeDigger.filed crowdedSettings ChangeDigger.belowNode .empty [] rfl crowded
  have hevaluated :
      let ran := run ChangeDigger.filed crowded
        (Crew.start crowdedSettings ChangeDigger.belowNode .empty []);
      ran.1.map (·.2) = [.ok 2, .error (.rejected "change dig queue is full"), .ok 1] ∧
        ran.2.IsDone ∧ ran.2.queue.jobs.length = 2 ∧ (accepted ran.1).length = 2 := by
    decide +kernel
  -- From here on nothing else is known of the run.
  dsimp only at hall hevaluated ⊢
  generalize run ChangeDigger.filed crowded
    (Crew.start crowdedSettings ChangeDigger.belowNode .empty []) = ran at hall hevaluated ⊢
  obtain ⟨-, -, -, hlog, hother, -⟩ := hall
  obtain ⟨hanswers, hdone, hlength, haccepted⟩ := hevaluated
  obtain ⟨log, hqueue, heach, -⟩ := hlog hdone
  refine ⟨hanswers, ⟨log, ?_, hqueue, ?_⟩, ?_⟩
  · rw [hqueue] at hlength
    simpa [JobQueue.extended, JobQueue.empty] using hlength
  · have hshares : ((accepted ran.1).map (share ChangeDigger.filed (Crew.start crowdedSettings
        ChangeDigger.belowNode .empty []))).length ≤ 2 := by
      rw [List.length_map]
      exact haccepted.le
    rw [heach 2, List.getD_eq_getElem?_getD, List.getElem?_eq_none hshares]
    rfl
  · intro workers capacity turns hdone' hperm
    rw [← hlength]
    exact (hother hdone workers capacity turns hdone' hperm).length_eq

end Crew

end Sentinel
