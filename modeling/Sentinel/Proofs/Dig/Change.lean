import Sentinel.Dig.Crew
import Sentinel.Proofs.Dig.Accepted
/-!
# What a change digger submits

The jobs that the work of a task comes to, as plain data. A property that cannot be read or that is
of another type adds none, and where no session can be opened there are none at all.

1. `Submits.andThen`: two steps submit the jobs of the first and then those of the second.
2. `submits_digCandidate`, `submits_runTask`: the work on one property and on a whole task submits
   the jobs that are listed for it, into every queue that accepts jobs.
3. `receive_cases`: what becomes of a notification.
4. `mem_unionOfNames`, `unionOfNames_eq`: only the union of the names that were added and of those
   that were changed counts, not how they are told apart.
-/

namespace Sentinel

/-- The queue with more jobs behind those that wait. -/
def JobQueue.extended (q : JobQueue) (js : List ScanJob) : JobQueue :=
  { q with jobs := q.jobs ++ js.map ScanJob.queued, submitted := q.submitted + js.length }

namespace JobQueue

theorem extended_nil (q : JobQueue) : q.extended [] = q := by
  simp [extended]

theorem extended_append (q : JobQueue) (js ks : List ScanJob) :
    q.extended (js ++ ks) = (q.extended js).extended ks := by
  simp [extended, Nat.add_assoc]

end JobQueue

namespace ChangeDigger

variable {x y : StateM DigState Unit} {js ks : List ScanJob}
variable {settings : ChangeDigSettings} {session : Session} {userId : Option String}

/-- A step submits some jobs and nothing else, if the queue accepts them. -/
def Submits (x : StateM DigState Unit) (js : List ScanJob) : Prop :=
  ∀ s : DigState, s.queue.rejecting = false → (x.run s).2.queue = s.queue.extended js

theorem Submits.nothing : Submits (pure ()) [] := fun s _ => s.queue.extended_nil.symm

theorem Submits.count (f : DigSummary → DigSummary) :
    Submits (modify fun s => { s with summary := f s.summary }) [] :=
  fun s _ => s.queue.extended_nil.symm

theorem Submits.andThen (hx : Submits x js) (hy : Submits y ks) :
    Submits (x >>= fun _ => y) (js ++ ks) := by
  intro s hs
  have hqueue : (x.run s).2.queue = s.queue.extended js := hx s hs
  have hnext : (x.run s).2.queue.rejecting = false := by rw [hqueue]; exact hs
  rw [JobQueue.extended_append, ← hqueue]
  exact hy (x.run s).2 hnext

/-- What a step of a dig reports is what it submits, whether it ends in an error or not. -/
theorem Submits.of_reports {z : Digs Unit} {report : DigReport} (h : Dig.Reports true z report) :
    Submits (discard z.run) report.jobs := by
  intro s hs
  have hrun : z.run.run s = (report.outcome, report.after s) := h s hs
  show (z.run.run s).2.queue = _
  rw [hrun]
  rfl

/-- The jobs for what stands at a path, when it is looked up. -/
def candidateJobs (settings : ChangeDigSettings) (session : Session) (userId : Option String)
    (path : String) : List ScanJob :=
  match session.property? path with
  | .error _ => []
  | .ok p =>
    if p.propertyType = settings.propertyType then
      (DigScope.jobsOf settings.maxLength p).map (ScanJob.forUser userId)
    else []

/-- The jobs that the work of a task comes to. -/
def taskJobs (settings : ChangeDigSettings) (r : Repository) (task : DigTask) : List ScanJob :=
  match Session.openOn r with
  | .error _ => []
  | .ok session => task.candidates.flatMap (candidateJobs settings session task.userId)

theorem submits_digCandidate (path : String) :
    Submits (digCandidate settings session userId path) (candidateJobs settings session userId path) := by
  rw [digCandidate, candidateJobs]
  cases session.property? path with
  | error e => exact Submits.nothing
  | ok p =>
    by_cases hp : p.propertyType = settings.propertyType
    · simp only [if_pos hp]
      have hreports : Dig.Reports true (Dig.emit p settings.maxLength userId) _ :=
        Dig.reports_emitPlaces p settings.maxLength userId p.places
      have hemit : Submits (discard (Dig.emit p settings.maxLength userId).run)
          ((DigScope.jobsOf settings.maxLength p).map (ScanJob.forUser userId)) := by
        rw [← (DigReport.offers_ofProperty p settings.maxLength userId).jobs]
        exact Submits.of_reports hreports
      exact (Submits.count fun c =>
        { c with propertiesResolved := c.propertiesResolved + 1 }).andThen hemit
    · simp only [if_neg hp]
      exact Submits.nothing

theorem submits_digCandidates (paths : List String) :
    Submits (digCandidates settings session userId paths)
      (paths.flatMap (candidateJobs settings session userId)) := by
  induction paths with
  | nil => exact Submits.nothing
  | cons path paths ih =>
    rw [digCandidates, List.flatMap_cons]
    exact (submits_digCandidate path).andThen ih

theorem submits_runTask (r : Repository) (task : DigTask) :
    Submits (discard (runTask settings r task)) (taskJobs settings r task) := by
  have hreset : Submits (modify fun s => { s with summary := {} }) [] := Submits.count fun _ => {}
  intro s hs
  rw [runTask, taskJobs]
  cases Session.openOn r with
  | error e => exact hreset s hs
  | ok session => exact hreset.andThen (submits_digCandidates task.candidates) s hs

/-- A notification without a property that matches takes no place; any other takes one, unless
every place is taken. -/
theorem receive_cases (d : ChangeDigger) (n : Notification) :
    ((d.taskOf n).candidates = [] ∧ d.receive n = .ok (0, d)) ∨
    ((d.taskOf n).candidates ≠ [] ∧ d.waiting.length < d.settings.capacity ∧
      d.receive n =
        .ok ((d.taskOf n).candidates.length, { d with waiting := d.waiting ++ [d.taskOf n] })) ∨
    ((d.taskOf n).candidates ≠ [] ∧ d.settings.capacity ≤ d.waiting.length ∧
      d.receive n = .error (.rejected "change dig queue is full")) := by
  cases hcs : (d.taskOf n).candidates with
  | nil =>
    have hmatching : d.candidates n.path n.added n.changed = [] := hcs
    refine .inl ⟨rfl, ?_⟩
    rw [receive, notify, hmatching]
  | cons c cs =>
    have hmatching : d.candidates n.path n.added n.changed = c :: cs := hcs
    have htask : d.taskOf n = ⟨c :: cs, n.userId⟩ := by rw [taskOf, hmatching]
    have hne : c :: cs ≠ [] := List.cons_ne_nil c cs
    rw [receive, notify, hmatching, htask]
    rcases Nat.lt_or_ge d.waiting.length d.settings.capacity with hlt | hge
    · exact .inr (.inl ⟨hne, hlt, if_pos hlt⟩)
    · exact .inr (.inr ⟨hne, hge, if_neg (Nat.not_lt.mpr hge)⟩)

theorem taskJobs_of_candidates_nil {r : Repository} {task : DigTask} (h : task.candidates = []) :
    taskJobs settings r task = [] := by
  rw [taskJobs, h]
  cases Session.openOn r <;> rfl

end ChangeDigger

namespace KeyMap

variable {α : Type}

theorem mem_keys_foldl_insert {es : List (String × α)} {m : KeyMap α} {q : String} :
    q ∈ (es.foldl (fun m e => m.insert e.1 e.2) m).keys ↔ q ∈ m.keys ∨ q ∈ es.map (·.1) := by
  induction es generalizing m with
  | nil => simp
  | cons e es ih =>
    rw [List.foldl_cons, ih, mem_keys_insert, List.map_cons, List.mem_cons, or_assoc]
    exact or_left_comm

end KeyMap

theorem mem_unionOfNames {xs ys : List String} {n : String} :
    n ∈ unionOfNames xs ys ↔ n ∈ xs ∨ n ∈ ys := by
  have hnone : n ∉ (KeyMap.empty : KeyMap Unit).keys := List.not_mem_nil
  rw [unionOfNames, KeyMap.ofList, KeyMap.mem_keys_foldl_insert, List.map_map, ← List.mem_append]
  simp [hnone]

theorem sorted_unionOfNames (xs ys : List String) : (unionOfNames xs ys).Pairwise (· < ·) :=
  KeyMap.sorted_keys _

/-- The names come in order, each once, so that they are known from which ones there are. -/
theorem unionOfNames_eq {xs ys ns : List String} (hn : ns.Pairwise (· < ·))
    (h : ∀ n, n ∈ ns ↔ n ∈ xs ∨ n ∈ ys) : unionOfNames xs ys = ns := by
  have hmem (n : String) : n ∈ unionOfNames xs ys ↔ n ∈ ns := by rw [mem_unionOfNames, h]
  have hnodup {zs : List String} (hz : zs.Pairwise (· < ·)) : zs.Nodup := hz.imp Std.ne_of_lt
  have hperm : List.Perm (unionOfNames xs ys) ns :=
    (List.perm_ext_iff_of_nodup (hnodup (sorted_unionOfNames xs ys)) (hnodup hn)).mpr hmem
  exact List.Perm.eq_of_pairwise (fun a b _ _ hab hba => absurd (Std.lt_trans hab hba) Std.lt_irrefl)
    (sorted_unionOfNames xs ys) hn hperm

end Sentinel
