import Sentinel.Proofs.Dig.Schedule
import Sentinel.Workforce
/-!
# Notifications to a pipeline

A notification goes to every change digger of a pipeline. A digger that rejects it neither keeps it from
the others nor changes what they do; the caller gets the first rejection, and the work on what the others
took goes on.

1. `answerOf_cons`: the answer of a pipeline to a notification, digger by digger.
2. `Crew.work_submits`, `left_notify`, `work_submits`: what a turn submits and what is then left to submit.
3. `run_submits`: over any turns, what was submitted and what is left make up what was taken on.
4. `notify_every_digger`: what becomes of a notification at each digger, for its caller and in the queue.
-/

namespace Sentinel

open ChangeDigger (candidateJobs taskJobs)

/-- An entry that is exchanged for another one. -/
theorem perm_cons_set {α : Type} {l : List α} {i : Nat} {old : α} (h : l[i]? = some old) (new : α) :
    List.Perm (old :: l.set i new) (new :: l) := by
  obtain ⟨hlt, rfl⟩ := List.getElem?_eq_some_iff.mp h
  calc List.Perm (l[i] :: l.set i new) (l[i] :: new :: l.eraseIdx i) :=
        (List.set_perm_cons_eraseIdx hlt new).cons _
    List.Perm _ (new :: l[i] :: l.eraseIdx i) := List.Perm.swap _ _ _
    List.Perm _ (new :: l) := (List.getElem_cons_eraseIdx_perm hlt).cons _

namespace ChangeDigger

/-- The jobs that a digger takes on with a notification: none, if it rejects it. -/
def takenOn (r : Repository) (n : Notification) (d : ChangeDigger) : List ScanJob :=
  match d.receive n with
  | .ok _ => taskJobs d.settings r (d.taskOf n)
  | .error _ => []

theorem owed_received (r : Repository) (n : Notification) (d : ChangeDigger) :
    (d.received n).owed r = d.owed r ++ d.takenOn r n := by
  rw [received, takenOn]
  rcases receive_cases d n with ⟨hnone, hn⟩ | ⟨-, -, hn⟩ | ⟨-, -, hn⟩
  · rw [hn, taskJobs_of_candidates_nil hnone, List.append_nil]
  · rw [hn, owed, owed, List.flatMap_append, List.flatMap_singleton]
  · rw [hn, List.append_nil]

theorem count_of_answer {n : Notification} {d : ChangeDigger} {count : Nat} (h : d.answer n = .ok count) :
    count = (d.taskOf n).candidates.length := by
  rw [answer] at h
  rcases receive_cases d n with ⟨hnone, hn⟩ | ⟨-, -, hn⟩ | ⟨-, -, hn⟩
  · rw [hn] at h
    rw [hnone]
    exact (Except.ok.inj h).symm
  · rw [hn] at h
    exact (Except.ok.inj h).symm
  · rw [hn] at h
    cases h

theorem settings_received (n : Notification) (d : ChangeDigger) : (d.received n).settings = d.settings := by
  rw [received]
  rcases receive_cases d n with ⟨-, hn⟩ | ⟨-, -, hn⟩ | ⟨-, -, hn⟩ <;> rw [hn]

end ChangeDigger

namespace Pipeline

variable {n : Notification} {ds : List ChangeDigger}

/-- What the caller is told by diggers that are notified in turn. -/
def answerOf (n : Notification) (ds : List ChangeDigger) : Except DispatchError Nat :=
  match (notifyEach n.path n.added n.changed n.userId ds).2 with
  | (queued, none) => .ok queued
  | (_, some e) => .error e

theorem receive_answer (p : Pipeline) (n : Notification) : (p.receive n).1 = answerOf n p.diggers := by
  rw [receive, onChange, answerOf]
  obtain ⟨ds, queued, _ | e⟩ := notifyEach n.path n.added n.changed n.userId p.diggers <;> rfl

/-- The rejection of a digger hides those of all later ones, though these are told all the same. -/
theorem answerOf_cons (d : ChangeDigger) :
    answerOf n (d :: ds) =
      match d.answer n with
      | .ok count => (answerOf n ds).map (count + ·)
      | .error e => .error e := by
  rw [answerOf, notifyEach, answerOf, ChangeDigger.answer, ChangeDigger.receive]
  obtain ⟨rest, queued, rejection⟩ := notifyEach n.path n.added n.changed n.userId ds
  cases d.notify n.path n.added n.changed n.userId with
  | error e => rfl
  | ok taken => cases rejection <;> rfl

theorem answerOf_of_rejected {before after : List ChangeDigger} {d : ChangeDigger} {e : DispatchError}
    (hbefore : ∀ b ∈ before, ∃ count, b.answer n = .ok count) (hd : d.answer n = .error e) :
    answerOf n (before ++ d :: after) = .error e := by
  induction before with
  | nil => rw [List.nil_append, answerOf_cons, hd]
  | cons b before ih =>
    obtain ⟨⟨count, hb⟩, hbefore⟩ := List.forall_mem_cons.mp hbefore
    rw [List.cons_append, answerOf_cons, hb, ih hbefore]
    rfl

theorem answerOf_of_accepted (h : ∀ d ∈ ds, ∃ count, d.answer n = .ok count) :
    answerOf n ds = .ok (ds.map fun d => (d.taskOf n).candidates.length).sum := by
  induction ds with
  | nil => rfl
  | cons d ds ih =>
    obtain ⟨⟨count, hd⟩, hds⟩ := List.forall_mem_cons.mp h
    rw [answerOf_cons, hd, ih hds, List.map_cons, List.sum_cons, ← ChangeDigger.count_of_answer hd]
    rfl

/-- All diggers accept a notification, or one of them is the first that does not. -/
theorem accepted_or_rejected (n : Notification) (ds : List ChangeDigger) :
    (∀ d ∈ ds, ∃ count, d.answer n = .ok count) ∨
      ∃ before d after e, ds = before ++ d :: after ∧ (∀ b ∈ before, ∃ count, b.answer n = .ok count) ∧
        d.answer n = .error e := by
  induction ds with
  | nil => exact .inl fun d hd => absurd hd List.not_mem_nil
  | cons d ds ih =>
    cases hd : d.answer n with
    | error e => exact .inr ⟨[], d, ds, e, rfl, fun b hb => absurd hb List.not_mem_nil, hd⟩
    | ok count =>
      rcases ih with haccepted | ⟨before, d', after, e, hds, hbefore, hd'⟩
      · exact .inl (List.forall_mem_cons.mpr ⟨⟨count, hd⟩, haccepted⟩)
      · right
        refine ⟨d :: before, d', after, e, by rw [hds, List.cons_append], ?_, hd'⟩
        exact List.forall_mem_cons.mpr ⟨⟨count, hd⟩, hbefore⟩

theorem answerOf_eq_error_iff :
    (∃ e, answerOf n ds = .error e) ↔ ∃ d ∈ ds, ∃ e, d.answer n = .error e := by
  rcases accepted_or_rejected n ds with hall | ⟨before, d, after, e, rfl, hbefore, hd⟩
  · refine iff_of_false ?_ ?_
    · rintro ⟨e, he⟩
      rw [answerOf_of_accepted hall] at he
      cases he
    · rintro ⟨d, hd, e, he⟩
      obtain ⟨count, hcount⟩ := hall d hd
      rw [hcount] at he
      cases he
  · exact iff_of_true ⟨e, answerOf_of_rejected hbefore hd⟩
      ⟨d, List.mem_append_right _ List.mem_cons_self, e, hd⟩

end Pipeline

namespace Crew

variable {r : Repository} {c : Crew} {worker : Nat}

/-- The jobs that a crew has still to submit: those for the tasks that wait, and what is left of the tasks
that are worked on. -/
def left (r : Repository) (c : Crew) : List ScanJob :=
  c.digger.owed r ++ c.workers.reduceOption.flatMap (Errand.jobs c.digger.settings)

theorem left_of_isDone (h : c.IsDone) : c.left r = [] := by
  have hbusy : c.workers.reduceOption = [] := by
    refine List.eq_nil_iff_forall_not_mem.mpr fun e he => ?_
    cases h.2 _ (List.reduceOption_mem_iff.mp he)
  rw [left, ChangeDigger.owed, h.1, hbusy]
  rfl

theorem left_assign {old : Option Errand} (h : c.workers[worker]? = some old) (new : Option Errand) :
    List.Perm (old.toList.flatMap (Errand.jobs c.digger.settings) ++ (c.assign worker new).left r)
      (new.toList.flatMap (Errand.jobs c.digger.settings) ++ c.left r) := by
  have hset := (perm_reduceOption_set h new).flatMap_right (Errand.jobs c.digger.settings)
  rw [List.flatMap_append, List.flatMap_append] at hset
  exact ((List.perm_append_comm_assoc ..).trans (hset.append_left _)).trans (List.perm_append_comm_assoc ..)

/-- An idle worker that takes a task submits nothing yet, and nothing is lost. -/
theorem left_take (h : c.workers[worker]? = some none) : List.Perm ((c.take r worker).left r) (c.left r) := by
  rw [take]
  cases hw : c.digger.waiting with
  | nil => exact List.Perm.refl _
  | cons task waiting =>
    let c' : Crew := { c with digger.waiting := waiting }
    have howed : c.left r = taskJobs c.digger.settings r task ++ c'.left r := by
      rw [left, ChangeDigger.owed, hw, List.flatMap_cons, List.append_assoc]
      rfl
    rw [howed, taskJobs]
    dsimp only
    cases Session.openOn r with
    | error e => exact List.Perm.refl _
    | ok session =>
      have hassign := left_assign (r := r) (c := c') h (some ⟨session, task.userId, task.candidates, {}⟩)
      rw [Option.toList_none, Option.toList_some, List.flatMap_nil, List.nil_append,
        List.flatMap_singleton] at hassign
      exact hassign

/-- A busy worker submits the jobs for one property of its task, and they are no longer left. -/
theorem resolve_submits {e : Errand} (h : c.workers[worker]? = some (some e))
    (hs : c.queue.rejecting = false) :
    ∃ js, (c.resolve worker e).queue = c.queue.extended js ∧
      List.Perm (js ++ (c.resolve worker e).left r) (c.left r) := by
  rw [resolve]
  cases hc : e.candidates with
  | nil =>
    have hassign := left_assign (r := r) h none
    have hnone : e.jobs c.digger.settings = [] := by
      rw [Errand.jobs, hc]
      rfl
    rw [Option.toList_some, Option.toList_none, List.flatMap_nil, List.flatMap_singleton, hnone] at hassign
    exact ⟨[], c.queue.extended_nil.symm, hassign⟩
  | cons path candidates =>
    let s := ((ChangeDigger.digCandidate c.digger.settings e.session e.userId path).run
      ⟨c.queue, c.trail, e.summary⟩).2
    let c' : Crew := { c with queue := s.queue, trail := s.trail }
    let e' : Errand := { e with candidates, summary := s.summary }
    let sent := candidateJobs c.digger.settings e.session e.userId path
    have hjobs : e.jobs c.digger.settings = sent ++ e'.jobs c.digger.settings := by
      rw [Errand.jobs, hc]
      rfl
    refine ⟨sent, ChangeDigger.submits_digCandidate path ⟨c.queue, c.trail, e.summary⟩ hs, ?_⟩
    have hassign := left_assign (r := r) (c := c') h (some e')
    rw [Option.toList_some, Option.toList_some, List.flatMap_singleton, List.flatMap_singleton, hjobs,
      List.append_assoc] at hassign
    -- What is left of the task stands on both sides, behind what was sent and before the rest.
    have hmoved : List.Perm (e'.jobs c.digger.settings ++ (sent ++ (c'.assign worker (some e')).left r))
        (e'.jobs c.digger.settings ++ c'.left r) := (List.perm_append_comm_assoc ..).trans hassign
    exact (List.perm_append_left_iff _).mp hmoved

/-- The turn of a worker submits some of the jobs that are left, and leaves the others. -/
theorem work_submits (hs : c.queue.rejecting = false) (worker : Nat) :
    ∃ js, (c.work r worker).queue = c.queue.extended js ∧
      List.Perm (js ++ (c.work r worker).left r) (c.left r) := by
  rw [work]
  rcases hi : c.workers[worker]? with _ | _ | e
  · exact ⟨[], c.queue.extended_nil.symm, List.Perm.refl _⟩
  · refine ⟨[], ?_, left_take hi⟩
    dsimp only
    rw [take, JobQueue.extended_nil]
    cases c.digger.waiting with
    | nil => rfl
    | cons task waiting =>
      dsimp only
      cases Session.openOn r <;> rfl
  · exact resolve_submits hi hs

end Crew

namespace Workforce

variable {r : Repository} {w : Workforce} {n : Notification} {place worker : Nat}

/-- The jobs that the workers of a pipeline have still to submit. -/
def left (r : Repository) (w : Workforce) : List ScanJob :=
  w.stations.flatMap fun station => (w.crew station).left r

/-- The jobs that the diggers take on with the notifications among some turns. -/
def takenOn (r : Repository) : List Turn → Workforce → List ScanJob
  | [], _ => []
  | .notify n :: turns, w =>
    w.pipeline.diggers.flatMap (ChangeDigger.takenOn r n) ++ takenOn r turns (w.notify n).2
  | .work place worker :: turns, w => takenOn r turns (w.work r place worker)

theorem stations_notify (w : Workforce) (n : Notification) :
    (w.notify n).2.stations = w.stations.map (Prod.map (·.received n) id) := by
  show ((w.pipeline.receive n).2.diggers.zip w.staff) = _
  rw [Pipeline.diggers_receive, List.zip_map_left]
  rfl

theorem zip_set {α β : Type} (xs : List α) (ys : List β) (i : Nat) (x : α) (y : β) :
    (xs.set i x).zip (ys.set i y) = (xs.zip ys).set i (x, y) := by
  induction xs generalizing ys i with
  | nil => rfl
  | cons a xs ih =>
    cases ys with
    | nil => cases i <;> rfl
    | cons b ys =>
      cases i with
      | zero => rfl
      | succ i => exact congrArg ((a, b) :: ·) (ih ys i)

theorem stations_work {station : ChangeDigger × List (Option Errand)}
    (h : w.stations[place]? = some station) :
    let c := (w.crew station).work r worker
    (w.work r place worker).stations = w.stations.set place (c.digger, c.workers) := by
  intro c
  rw [work, h]
  exact zip_set _ _ _ _ _

/-- A notification adds what the diggers take on with it to what is left. -/
theorem left_notify (w : Workforce) (n : Notification) :
    List.Perm ((w.notify n).2.left r) (w.left r ++ w.pipeline.diggers.flatMap (ChangeDigger.takenOn r n)) := by
  have hdiggers : w.pipeline.diggers = w.stations.map (·.1) :=
    (List.map_fst_zip (Nat.le_of_eq w.staffed.symm)).symm
  rw [left, stations_notify, hdiggers, List.flatMap_map, List.flatMap_map, left]
  refine List.Perm.trans ?_ (List.flatMap_append_perm _ _ _).symm
  refine List.Perm.flatMap_left _ fun station _ => ?_
  show List.Perm ((station.1.received n).owed r ++
    station.2.reduceOption.flatMap (Errand.jobs (station.1.received n).settings)) _
  rw [ChangeDigger.owed_received, ChangeDigger.settings_received, List.append_assoc, Crew.left,
    List.append_assoc]
  exact List.perm_append_comm.append_left _

theorem work_submits (hs : w.queue.rejecting = false) (place worker : Nat) :
    ∃ js, (w.work r place worker).queue = w.queue.extended js ∧
      List.Perm (js ++ (w.work r place worker).left r) (w.left r) := by
  cases hstation : w.stations[place]? with
  | none =>
    have hidle : w.work r place worker = w := by rw [work, hstation]
    rw [hidle]
    exact ⟨[], w.queue.extended_nil.symm, List.Perm.refl _⟩
  | some station =>
    let c := (w.crew station).work r worker
    obtain ⟨js, hqueue, hleft⟩ : ∃ js, c.queue = w.queue.extended js ∧
        List.Perm (js ++ c.left r) ((w.crew station).left r) := Crew.work_submits hs worker
    refine ⟨js, ?_, ?_⟩
    · rw [work, hstation]
      exact hqueue
    · have hothers : List.Perm ((w.crew station).left r ++ (w.work r place worker).left r)
          (c.left r ++ w.left r) := by
        rw [left, stations_work hstation]
        exact (perm_cons_set hstation (c.digger, c.workers)).flatMap_right fun s => (w.crew s).left r
      refine (List.perm_append_left_iff (c.left r)).mp (List.Perm.trans ?_ hothers)
      rw [← List.append_assoc]
      exact (List.perm_append_comm.trans hleft).append_right _

/-- Over any turns, what was submitted and what is left make up what was left before and what the diggers
took on. -/
theorem run_submits (hs : w.queue.rejecting = false) (turns : List Turn) :
    ∃ log, (run r turns w).queue = w.queue.extended log ∧
      List.Perm (log ++ (run r turns w).left r) (w.left r ++ takenOn r turns w) := by
  -- On the turns: a notification adds the same to both sides, and a worker only moves jobs from what is
  -- left to the log.
  induction turns generalizing w with
  | nil =>
    refine ⟨[], w.queue.extended_nil.symm, ?_⟩
    rw [takenOn, List.append_nil]
    exact List.Perm.refl _
  | cons turn turns ih =>
    cases turn with
    | notify n =>
      have hnotified : (w.notify n).2.queue.rejecting = false := hs
      obtain ⟨log, hqueue, hlog⟩ := ih hnotified
      refine ⟨log, hqueue, hlog.trans ?_⟩
      rw [takenOn, ← List.append_assoc]
      exact (left_notify w n).append_right _
    | work place worker =>
      obtain ⟨js, hworked, hjs⟩ := work_submits (r := r) hs place worker
      have hopen : (w.work r place worker).queue.rejecting = false := by
        rw [hworked]
        exact hs
      obtain ⟨log, hqueue, hlog⟩ := ih hopen
      refine ⟨js ++ log, ?_, ?_⟩
      · rw [JobQueue.extended_append, ← hworked]
        exact hqueue
      · rw [List.append_assoc]
        refine (hlog.append_left js).trans ?_
        rw [← List.append_assoc]
        exact hjs.append_right _

theorem left_of_isDone (h : w.IsDone) : w.left r = [] :=
  List.flatMap_eq_nil_iff.mpr fun station hstation => Crew.left_of_isDone (h station hstation)

/-- How much there is to do for all workers together. -/
def effort (w : Workforce) : Nat := (w.stations.map fun station => (w.crew station).effort).sum

/-- Every digger has a worker. -/
def IsStaffed (w : Workforce) : Prop := ∀ workers ∈ w.staff, 0 < workers.length

theorem isStaffed_work (h : w.IsStaffed) (place worker : Nat) : (w.work r place worker).IsStaffed := by
  rw [work]
  cases hstation : w.stations[place]? with
  | none => exact h
  | some station =>
    intro workers hworkers
    rcases List.mem_or_eq_of_mem_set hworkers with hold | hnew
    · exact h workers hold
    · rw [hnew, Crew.length_workers_work]
      exact h _ (List.of_mem_zip (List.mem_of_getElem? hstation)).2

theorem exists_effort_work_lt (h : ¬w.IsDone) (hw : w.IsStaffed) :
    ∃ place worker, (w.work r place worker).effort < w.effort := by
  simp only [IsDone, not_forall] at h
  obtain ⟨station, hstation, hbusy⟩ := h
  obtain ⟨worker, hlt⟩ := Crew.exists_effort_work_lt (r := r) hbusy (hw _ (List.of_mem_zip hstation).2)
  obtain ⟨place, hplace⟩ := List.getElem?_of_mem hstation
  refine ⟨place, worker, ?_⟩
  let c := (w.crew station).work r worker
  have hsum := ((perm_cons_set hplace (c.digger, c.workers)).map fun s => (w.crew s).effort).sum_nat
  rw [List.map_cons, List.map_cons, List.sum_cons, List.sum_cons] at hsum
  have hworked : (w.work r place worker).effort =
      ((w.stations.set place (c.digger, c.workers)).map fun s => (w.crew s).effort).sum := by
    rw [effort, stations_work hplace]
    rfl
  have hsame : (w.crew (c.digger, c.workers)).effort = c.effort := rfl
  have hless : c.effort < (w.crew station).effort := hlt
  rw [hworked, effort]
  omega

theorem exists_turns_isDone (hw : w.IsStaffed) :
    ∃ turns : List (Nat × Nat), (run r (turns.map fun turn => .work turn.1 turn.2) w).IsDone := by
  induction heffort : w.effort using Nat.strongRecOn generalizing w with
  | ind effort ih =>
    by_cases hdone : w.IsDone
    · exact ⟨[], hdone⟩
    · obtain ⟨place, worker, hlt⟩ := exists_effort_work_lt (r := r) hdone hw
      obtain ⟨turns, hturns⟩ := ih _ (heffort ▸ hlt) (isStaffed_work hw place worker) rfl
      exact ⟨(place, worker) :: turns, hturns⟩

theorem isStaffed_run (h : w.IsStaffed) (turns : List Turn) : (run r turns w).IsStaffed := by
  induction turns generalizing w with
  | nil => exact h
  | cons turn turns ih =>
    cases turn with
    | notify n => exact ih (w := (w.notify n).2) h
    | work place worker => exact ih (isStaffed_work h place worker)

end Workforce

/-- A notification to a pipeline reaches every digger: each is left as the notification alone would leave
it, whatever the others say. The caller is told the first rejection, if there is any, and else how many
candidates all diggers have. Whatever the caller is told, and whatever else is told and worked on
meanwhile: once all work is done, the jobs that were submitted are those that were left to submit before,
those that the diggers took on with the notification, and those for later notifications. There is always
a way to get it done. -/
theorem notify_every_digger (p : Pipeline) (n : Notification) :
    let told := p.receive n
    told.2 = { p with diggers := p.diggers.map (·.received n) } ∧
    (∀ before d after e, p.diggers = before ++ d :: after →
      (∀ b ∈ before, ∃ count, b.answer n = .ok count) → d.answer n = .error e → told.1 = .error e) ∧
    ((∃ e, told.1 = .error e) ↔ ∃ d ∈ p.diggers, ∃ e, d.answer n = .error e) ∧
    ((∀ d ∈ p.diggers, ∃ count, d.answer n = .ok count) →
      told.1 = .ok (p.diggers.map fun d => (d.taskOf n).candidates.length).sum) ∧
    ∀ (r : Repository) (w : Workforce), w.pipeline = p → w.queue.rejecting = false →
      ∀ turns, let ran := Workforce.run r (.notify n :: turns) w
        (ran.IsDone → ∃ log, ran.queue = w.queue.extended log ∧
          List.Perm log (w.left r ++ (p.diggers.flatMap (ChangeDigger.takenOn r n) ++
            Workforce.takenOn r turns (w.notify n).2))) ∧
        (w.IsStaffed → ∃ rest : List (Nat × Nat),
          (Workforce.run r (rest.map fun turn => .work turn.1 turn.2) ran).IsDone) := by
  intro told
  have hanswer : told.1 = Pipeline.answerOf n p.diggers := p.receive_answer n
  rw [hanswer]
  refine ⟨?_, ?_, Pipeline.answerOf_eq_error_iff, Pipeline.answerOf_of_accepted, ?_⟩
  · rw [← p.diggers_receive n]
    rfl
  · intro before d after e hdiggers hbefore hd
    rw [hdiggers]
    exact Pipeline.answerOf_of_rejected hbefore hd
  · rintro r w rfl hs turns ran
    refine ⟨fun hdone => ?_, fun hw => ?_⟩
    · obtain ⟨log, hqueue, hlog⟩ := Workforce.run_submits (r := r) hs (.notify n :: turns)
      have hnone : (Workforce.run r (.notify n :: turns) w).left r = [] := Workforce.left_of_isDone hdone
      rw [hnone, List.append_nil] at hlog
      exact ⟨log, hqueue, hlog⟩
    · exact Workforce.exists_turns_isDone (Workforce.isStaffed_run hw _)

/-- A digger without room: the only place is taken by a task for the node below. -/
def fullDigger : ChangeDigger :=
  { ChangeDigger.shortTexts with
    settings := { ChangeDigger.shortTexts.settings with capacity := 1 }
    waiting := [⟨["/a/b/title"], none⟩] }

/-- A pipeline with the full digger and one that is idle, and a worker for each. -/
def halfBusy : Workforce where
  pipeline := ⟨{}, .empty, 0, [fullDigger, ChangeDigger.shortTexts]⟩
  staff := [[none], [none]]
  queue := .empty
  trail := []
  staffed := rfl

/-- The first digger rejects the notification and the caller is told so; the second one takes it all the
same, and in the end the queue has the job for it, beside the one for the task that waited before. -/
theorem notify_every_digger_halfBusy :
    let n : Notification := ⟨"/a", ["names"], ["data"], some "eve"⟩
    let turns : List Workforce.Turn :=
      [.work 1 0, .work 0 0, .work 1 0, .work 1 0, .work 0 0, .work 0 0, .work 1 0]
    let ran := Workforce.run ChangeDigger.filed (.notify n :: turns) halfBusy
    (halfBusy.notify n).1 = .error (.rejected "change dig queue is full") ∧
      ∃ log, ran.queue = JobQueue.empty.extended log ∧
        List.Perm log [⟨"/a/b/title", none, none, .string⟩, ⟨"/a/names", some 0, some "eve", .string⟩] := by
  intro n turns ran
  obtain ⟨-, hfirst, -, -, hworks⟩ := notify_every_digger halfBusy.pipeline n
  have hfull : fullDigger.answer n = .error (.rejected "change dig queue is full") := by decide +kernel
  have hdone : ran.IsDone := by decide +kernel
  obtain ⟨log, hqueue, hlog⟩ := (hworks ChangeDigger.filed halfBusy rfl rfl turns).1 hdone
  have hall : halfBusy.left ChangeDigger.filed ++
      (halfBusy.pipeline.diggers.flatMap (ChangeDigger.takenOn ChangeDigger.filed n) ++
        Workforce.takenOn ChangeDigger.filed turns (halfBusy.notify n).2) =
      [⟨"/a/b/title", none, none, .string⟩, ⟨"/a/names", some 0, some "eve", .string⟩] := by decide +kernel
  rw [hall] at hlog
  have hrejected : (halfBusy.pipeline.receive n).1 = .error (.rejected "change dig queue is full") :=
    hfirst [] fullDigger [ChangeDigger.shortTexts] _ rfl (fun b hb => absurd hb List.not_mem_nil) hfull
  exact ⟨hrejected, log, hqueue, hlog⟩

end Sentinel
