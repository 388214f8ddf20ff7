import Mathlib.Data.List.ReduceOption
import Sentinel.Proofs.Dig.Change
import Sentinel.Proofs.Dig.Coverage
/-!
# Incremental digs and full digs

A change digger that is told of all properties of a node, as added or as changed, submits the jobs
that a dig of this node alone submits, in the same order and for the user who made the change. One
notification for each node below a path, parents first, comes to a dig of all that lies below it.

1. `taskJobs_taskOf`: the jobs for a notification of all properties of a node.
2. `serve_run`: a digger that is served owes what it was told and has not yet worked off.
3. `serve_eq_tree`: the work on one notification and on those for a whole tree, beside the digs.
-/

namespace Sentinel

namespace Repository

/-- The names of the properties of the node at a path, in order. -/
def namesAt (r : Repository) (p : String) : List String := ((r.nodes.get? p).getD KeyMap.empty).keys

end Repository

/-- The properties that were added or changed are all that the node has. -/
def Notification.NamesAll (r : Repository) (n : Notification) : Prop :=
  ∀ name, name ∈ r.namesAt n.path ↔ name ∈ n.added ∨ name ∈ n.changed

namespace ChangeDigger

variable {r : Repository} {d : ChangeDigger} {n : Notification} {q : String}

/-- What a change digger looks for, as the scope of a dig. -/
def scope (d : ChangeDigger) (maxDepth : Int) : DigScope where
  accepts := d.pattern.accepts
  types := [d.settings.propertyType]
  maxLength := d.settings.maxLength
  maxDepth := maxDepth

theorem candidateJobs_child (h : r.IsSound) (hf : r.failing = []) {m : KeyMap StoredProperty}
    (hm : r.nodes.get? q = some m) {e : String × StoredProperty} (he : e ∈ m.entries)
    (settings : ChangeDigSettings) (userId : Option String) :
    candidateJobs settings ⟨r⟩ userId (Path.child q e.1) =
      if e.2.propertyType = settings.propertyType then
        (DigScope.jobsOf settings.maxLength (e.2.describe (Path.child q e.1))).map
          (ScanJob.forUser userId)
      else [] := by
  have hproperty : Session.property? ⟨r⟩ (Path.child q e.1) =
      .ok (e.2.describe (Path.child q e.1)) := by
    rw [Session.property?, Repository.stored?_child h hf hm he]
    rfl
  rw [candidateJobs, hproperty]
  rfl

theorem taskJobs_taskOf (h : r.IsSound) (hf : r.failing = []) (ha : r.available = true)
    (hq : n.path ∈ r.nodes.keys) (hn : n.NamesAll r) (maxDepth : Int) :
    taskJobs d.settings r (d.taskOf n) =
      ((d.scope maxDepth).jobs (r.propertiesOf n.path)).map (ScanJob.forUser n.userId) := by
  obtain ⟨m, hm⟩ := KeyMap.mem_keys.mp hq
  have hnames : unionOfNames n.added n.changed = m.keys := by
    refine unionOfNames_eq m.sorted_keys fun name => ?_
    rw [← hn name, Repository.namesAt, hm, Option.getD_some]
  have hsession : Session.openOn r = .ok ⟨r⟩ := if_pos ha
  have hcandidates : (d.taskOf n).candidates =
      (m.entries.map fun e => Path.child n.path e.1).filter d.pattern.accepts := by
    show ((unionOfNames n.added n.changed).map (Path.child n.path)).filter _ = _
    rw [hnames, KeyMap.keys, List.map_map]
    rfl
  have hchild (e : String × StoredProperty) (he : e ∈ m.entries) :=
    candidateJobs_child h hf hm he d.settings n.userId
  rw [taskJobs, hsession, hcandidates, DigScope.jobs, Repository.propertiesOf, hm, Option.getD_some]
  show List.flatMap (candidateJobs d.settings ⟨r⟩ n.userId) _ = _
  -- Entry by entry: one side asks for the pattern and then for the type, the other for both at once.
  generalize m.entries = es at hchild ⊢
  induction es with
  | nil => rfl
  | cons e es ih =>
    obtain ⟨he, hes⟩ := List.forall_mem_cons.mp hchild
    have hwants : (d.scope maxDepth).wants (e.2.describe (Path.child n.path e.1)) =
        (decide (e.2.propertyType = d.settings.propertyType) &&
          d.pattern.accepts (Path.child n.path e.1)) := by
      simp [DigScope.wants, scope, StoredProperty.describe]
    rw [List.map_cons, List.map_cons, List.filter_cons, List.filter_cons, hwants]
    cases hp : d.pattern.accepts (Path.child n.path e.1) with
    | false => simpa using ih hes
    | true =>
      by_cases ht : e.2.propertyType = d.settings.propertyType
      · rw [if_pos ht] at he
        simp only [ht, decide_true, Bool.and_true, if_true, List.flatMap_cons, List.map_append, he]
        rw [ih hes]
        rfl
      · rw [if_neg ht] at he
        simp only [ht, decide_false, Bool.false_and, Bool.false_eq_true, if_false, if_true,
          List.flatMap_cons, he]
        exact ih hes

/-- The jobs for the tasks that wait. -/
def owed (r : Repository) (d : ChangeDigger) : List ScanJob :=
  d.waiting.flatMap (taskJobs d.settings r)

theorem runOldest_run (d : ChangeDigger) {s : DigState} (hs : s.queue.rejecting = false) :
    ∃ jobs s', (d.runOldest r).run s = ({ d with waiting := d.waiting.tail }, s') ∧
      s'.queue = s.queue.extended jobs ∧ jobs ++ d.waiting.tail.flatMap (taskJobs d.settings r) =
        d.owed r := by
  rw [runOldest, owed]
  cases hw : d.waiting with
  | nil =>
    have hd : d = { d with waiting := [] } := by rw [← hw]
    refine ⟨[], s, ?_, s.queue.extended_nil.symm, rfl⟩
    rw [List.tail_nil, ← hd]
    rfl
  | cons task waiting =>
    exact ⟨taskJobs d.settings r task, _, rfl, submits_runTask r task s hs, rfl⟩

/-- What a digger has submitted and what it still owes is what it owed before, followed by the jobs
for the notifications that it took. -/
theorem serve_run {turns : List (Option Notification)} {d' : ChangeDigger} {s s' : DigState}
    (hs : s.queue.rejecting = false) (h : (serve r turns d).run s = (.ok d', s')) :
    d' = { d with waiting := d'.waiting } ∧ ∃ jobs, s'.queue = s.queue.extended jobs ∧
      jobs ++ d'.owed r =
        d.owed r ++ turns.reduceOption.flatMap fun n => taskJobs d.settings r (d.taskOf n) := by
  induction turns generalizing d s with
  | nil =>
    obtain ⟨rfl, rfl⟩ : d = d' ∧ s = s' := ⟨Except.ok.inj (Prod.mk.inj h).1, (Prod.mk.inj h).2⟩
    exact ⟨rfl, [], s.queue.extended_nil.symm, by simp⟩
  | cons turn turns ih =>
    cases turn with
    | none =>
      obtain ⟨worked, s₁, hrun, hqueue, howed⟩ := runOldest_run (r := r) d hs
      rw [serve, StateT.run_bind, hrun] at h
      have hs₁ : s₁.queue.rejecting = false := by
        rw [hqueue]
        exact hs
      obtain ⟨hd, jobs, hqueue', howed'⟩ := ih hs₁ h
      refine ⟨hd, worked ++ jobs, ?_, ?_⟩
      · rw [hqueue', hqueue, JobQueue.extended_append]
      · rw [List.append_assoc, howed', ← howed, List.append_assoc]
        rfl
    | some n =>
      rw [List.reduceOption_cons_of_some, List.flatMap_cons, ← List.append_assoc]
      rw [serve] at h
      rcases receive_cases d n with ⟨hnil, hn⟩ | ⟨-, -, hn⟩ | ⟨-, -, hn⟩
      · rw [hn] at h
        rw [taskJobs_of_candidates_nil hnil, List.append_nil]
        exact ih hs h
      · rw [hn] at h
        obtain ⟨hd, jobs, hqueue, howed⟩ := ih hs h
        refine ⟨hd, jobs, hqueue, howed.trans ?_⟩
        rw [owed, owed, List.flatMap_append, List.flatMap_singleton]
        rfl
      · rw [hn] at h
        cases h

/-- A digger without tasks that is served one notification and then one task at a time takes every
notification, if it has a place at all. -/
theorem serve_each (hw : d.waiting = []) (hc : 0 < d.settings.capacity) (ns : List Notification)
    {s : DigState} (hs : s.queue.rejecting = false) :
    ∃ s', (serve r (ns.flatMap fun n => [some n, none]) d).run s = (.ok d, s') := by
  induction ns generalizing s with
  | nil => exact ⟨s, rfl⟩
  | cons n ns ih =>
    have hidle : { d with waiting := [] } = d := by rw [← hw]
    obtain ⟨count, d₁, hn, hd₁⟩ : ∃ count d₁, d.receive n = .ok (count, d₁) ∧
        { d₁ with waiting := d₁.waiting.tail } = d := by
      rcases receive_cases d n with ⟨-, hn⟩ | ⟨-, -, hn⟩ | ⟨-, hfull, -⟩
      · refine ⟨_, _, hn, ?_⟩
        rw [hw]
        exact hidle
      · refine ⟨_, _, hn, ?_⟩
        rw [hw]
        exact hidle
      · rw [hw] at hfull
        exact absurd hc (Nat.not_lt.mpr hfull)
    obtain ⟨jobs, s₁, hrun, hqueue, -⟩ := runOldest_run (r := r) d₁ hs
    have hs₁ : s₁.queue.rejecting = false := by
      rw [hqueue]
      exact hs
    show ∃ s', (serve r (some n :: none :: ns.flatMap fun n => [some n, none]) d).run s = _
    rw [serve, hn]
    show ∃ s', (serve r (none :: _) d₁).run s = _
    rw [serve, StateT.run_bind, hrun, hd₁]
    exact ih hs₁

theorem tree_scope_run (h : r.IsSound) (hf : r.failing = []) (hq : q ∈ r.nodes.keys)
    (hl : -1 ≤ d.settings.maxLength) {maxDepth : Int} (hd : -1 ≤ maxDepth) {s : DigState}
    (hs : s.queue.rejecting = false) :
    let dug := (Dig.tree (r.nodeAt q) (d.scope maxDepth)).run.run s
    (∃ summary, dug.1 = .ok summary) ∧ dug.2.queue = s.queue.extended
      ((r.covered q maxDepth).flatMap fun p => (d.scope maxDepth).jobs (r.propertiesOf p)) := by
  intro dug
  have hvalid : (d.scope maxDepth).IsValid := ⟨hl, hd, List.cons_ne_nil _ _⟩
  obtain ⟨report, hoffers, hrun⟩ := Dig.tree_run_accepted h hf hq hvalid s hs
  have hdug : dug = (.ok report.counts, report.after { s with summary := {} }) := hrun
  refine ⟨⟨report.counts, by rw [hdug]⟩, ?_⟩
  rw [hdug]
  show s.queue.extended report.jobs = _
  rw [hoffers.jobs]
  rfl

theorem covered_zero (h : r.IsSound) (hq : q ∈ r.nodes.keys) : r.covered q 0 = [q] := by
  have hdescent := Repository.descent_eq_covered h hq (by decide : (-1 : Int) ≤ 0)
  rw [← hdescent, Repository.descent_eq]
  simp

/-- Two ways to the same jobs. What a digger is told of a node, it submits as a dig of this node
alone does, for the user who made the change; and what it is told of all nodes below a path, parents
first, it submits as a dig of the whole tree does, but for the users. It may be behind with its work
on the way, as long as it takes every notification and no task waits in the end. -/
theorem serve_eq_tree {p : String} (hr : r.Reachable) (hf : r.failing = [])
    (ha : r.available = true) (hp : p ∈ r.nodes.keys) (d : ChangeDigger)
    (hl : -1 ≤ d.settings.maxLength) (s : DigState) (hs : s.queue.rejecting = false) :
    let dug (maxDepth : Int) := (Dig.tree (r.nodeAt p) (d.scope maxDepth)).run.run s
    let serves (ns : List Notification) (q : JobQueue) := ∃ turns d' s',
      turns.reduceOption = ns ∧ (serve r turns d).run s = (.ok d', s') ∧ d'.waiting = [] ∧ s'.queue = q
    r.node? p = .ok (r.nodeAt p) ∧
      (∃ summary jobs, (dug 0).1 = .ok summary ∧ (dug 0).2.queue = s.queue.extended jobs ∧
        ∀ n q, n.path = p → n.NamesAll r → serves [n] q →
          q = s.queue.extended (d.owed r ++ jobs.map (ScanJob.forUser n.userId))) ∧
      (∃ summary jobs, (dug (-1)).1 = .ok summary ∧ (dug (-1)).2.queue = s.queue.extended jobs ∧
        ∀ ns q, ns.map (·.path) = r.descent none p → (∀ n ∈ ns, n.NamesAll r) → serves ns q →
          ∃ submitted, q = s.queue.extended (d.owed r ++ submitted) ∧
            submitted.map (ScanJob.forUser none) = jobs) ∧
      (d.waiting = [] → 0 < d.settings.capacity → ∀ ns, ∃ q, serves ns q) := by
  intro dug serves
  have h := Repository.isSound_of_reachable hr
  have hserves {ns : List Notification} {q : JobQueue} (hq : serves ns q) :
      q = s.queue.extended (d.owed r ++ ns.flatMap fun n => taskJobs d.settings r (d.taskOf n)) := by
    obtain ⟨turns, d', s', hns, hrun, hdone, rfl⟩ := hq
    obtain ⟨-, jobs, hqueue, howed⟩ := serve_run hs hrun
    have hnone : d'.owed r = [] := by rw [owed, hdone, List.flatMap_nil]
    rw [hnone, List.append_nil, hns] at howed
    rw [hqueue, howed]
  refine ⟨Repository.node?_eq hf hp, ?_, ?_, ?_⟩
  · obtain ⟨⟨summary, hsummary⟩, hqueue⟩ := tree_scope_run h hf hp hl (by decide : (-1 : Int) ≤ 0) hs
    refine ⟨summary, _, hsummary, hqueue, ?_⟩
    rintro n q rfl hn hq
    rw [hserves hq, covered_zero h hp, List.flatMap_singleton, List.flatMap_singleton,
      taskJobs_taskOf h hf ha hp hn 0]
  · obtain ⟨⟨summary, hsummary⟩, hqueue⟩ := tree_scope_run h hf hp hl (Int.le_refl (-1)) hs
    refine ⟨summary, _, hsummary, hqueue, ?_⟩
    intro ns q hns hall hq
    refine ⟨_, hserves hq, ?_⟩
    have hcovered : ns.map (·.path) = r.covered p (-1) := by
      rw [hns]
      exact Repository.descent_eq_covered h hp (Int.le_refl (-1))
    rw [← hcovered, List.map_flatMap, List.flatMap_map]
    refine List.flatMap_congr fun n hn => ?_
    have hkey : n.path ∈ r.nodes.keys := by
      have hmem : n.path ∈ r.covered p (-1) := hcovered ▸ List.mem_map_of_mem hn
      exact (Repository.mem_covered.mp hmem).1
    rw [taskJobs_taskOf h hf ha hkey (hall n hn) (-1), List.map_map]
    exact DigScope.map_forUser_jobs _ _
  · intro hw hc ns
    obtain ⟨s', hrun⟩ := serve_each (r := r) hw hc ns hs
    refine ⟨s'.queue, _, d, s', ?_, hrun, hw, rfl⟩
    clear hrun
    induction ns with
    | nil => rfl
    | cons n ns ih => exact congrArg (n :: ·) ih

/-- A node with a binary value and a list of texts, and a node below it. -/
def filed : Repository :=
  ((Repository.empty.setProperty "/a/data" ⟨.binary, [.binary [1]], false⟩).setProperty
    "/a/names" ⟨.string, [.text "x", .text "long"], true⟩).setProperty
    "/a/b/title" ⟨.string, [.text "t"], false⟩

/-- What a commit by Eve reports of the two nodes: some names twice, and some once only. -/
def filedNotifications : List Notification :=
  [⟨"/a", ["names"], ["data", "names"], some "eve"⟩, ⟨"/a/b", [], ["title"], some "eve"⟩]

section Unbounded

attribute [local instance] SizeLimit.unbounded

/-- The pattern for all paths below a node. -/
def belowNode : PathPattern :=
  match PathPattern.ofSource? "^/a/.*$" with
  | .ok pattern => pattern
  | .error _ => ⟨"", .blank⟩

end Unbounded

/-- A digger for short texts. -/
def shortTexts : ChangeDigger := ⟨{ propertyType := .string, maxLength := 1 }, belowNode, []⟩

/-- The digger is told of the upper node, and then of both: it submits the only job for the upper
node and the two for both, as the digs do. -/
theorem serve_eq_tree_filed :
    let start : DigState := ⟨.empty, [], {}⟩
    let dug (maxDepth : Int) := (Dig.tree (filed.nodeAt "/a") (shortTexts.scope maxDepth)).run.run start
    let served (ns : List Notification) :=
      (serve filed (ns.flatMap fun n => [some n, none]) shortTexts).run start
    (∃ job, (dug 0).2.queue = JobQueue.empty.extended [job] ∧
      (served (filedNotifications.take 1)).2.queue =
        JobQueue.empty.extended [job.forUser (some "eve")]) ∧
      ∃ submitted, submitted.length = 2 ∧
        (served filedNotifications).2.queue = JobQueue.empty.extended submitted ∧
        (dug (-1)).2.queue = JobQueue.empty.extended (submitted.map (ScanJob.forUser none)) := by
  intro start dug served
  have hr : filed.Reachable := by
    have hdata := Repository.Reachable.empty.setProperty "/a/data" ⟨.binary, [.binary [1]], false⟩
      (by decide)
    have hnames := hdata.setProperty "/a/names" ⟨.string, [.text "x", .text "long"], true⟩ (by decide)
    exact hnames.setProperty _ _ (by decide)
  have hp : "/a" ∈ filed.nodes.keys := by decide +kernel
  have hall : ∀ n ∈ filedNotifications, n.NamesAll filed := by
    intro n hn name
    rcases List.mem_cons.mp hn with rfl | hn
    · have hnames : filed.namesAt "/a" = ["data", "names"] := by decide +kernel
      show name ∈ filed.namesAt "/a" ↔ name ∈ ["names"] ∨ name ∈ ["data", "names"]
      rw [hnames]
      exact ⟨.inr, fun h => h.elim (List.mem_cons_of_mem _) id⟩
    · obtain rfl := List.mem_singleton.mp hn
      have hnames : filed.namesAt "/a/b" = ["title"] := by decide +kernel
      show name ∈ filed.namesAt "/a/b" ↔ name ∈ [] ∨ name ∈ ["title"]
      rw [hnames]
      exact ⟨.inr, fun h => h.elim (fun h => absurd h List.not_mem_nil) id⟩
  have hdescent : filedNotifications.map (·.path) = filed.descent none "/a" := by
    have hcovered : filed.covered "/a" (-1) = ["/a", "/a/b"] := by decide +kernel
    have heq := Repository.descent_eq_covered (Repository.isSound_of_reachable hr) hp
      (Int.le_refl (-1))
    rw [hcovered] at heq
    exact heq.symm
  obtain ⟨-, ⟨-, jobs, -, hdug, hone⟩, ⟨-, all, -, hdugAll, hmany⟩, -⟩ :=
    serve_eq_tree hr (by decide +kernel) (by decide +kernel) hp shortTexts (by decide) start rfl
  obtain ⟨s₁, hrun⟩ := serve_each (r := filed) (d := shortTexts) rfl (by decide)
    (filedNotifications.take 1) (s := start) rfl
  obtain ⟨s₂, hrunAll⟩ := serve_each (r := filed) (d := shortTexts) rfl (by decide)
    filedNotifications (s := start) rfl
  have hfirst : s₁.queue = JobQueue.empty.extended (jobs.map (ScanJob.forUser (some "eve"))) :=
    hone ⟨"/a", ["names"], ["data", "names"], some "eve"⟩ _ rfl (hall _ List.mem_cons_self)
      ⟨_, _, s₁, rfl, hrun, rfl, rfl⟩
  obtain ⟨submitted, hsubmitted, hsame⟩ := hmany filedNotifications s₂.queue hdescent hall
    ⟨_, _, s₂, rfl, hrunAll, rfl, rfl⟩
  -- How many jobs there are is known from a run.
  have hcount (ns : List Notification) (k : Nat)
      (hk : (((serve filed (ns.flatMap fun n => [some n, none]) shortTexts).run
        ⟨.empty, [], {}⟩).2.queue.jobs.length == k) = true) :
      (served ns).2.queue.jobs.length = k := eq_of_beq hk
  have hone' := hcount (filedNotifications.take 1) 1 (by decide +kernel)
  have htwo := hcount filedNotifications 2 (by decide +kernel)
  have hserved : served (filedNotifications.take 1) = (.ok shortTexts, s₁) := hrun
  have hservedAll : served filedNotifications = (.ok shortTexts, s₂) := hrunAll
  rw [hserved, hfirst] at hone'
  rw [hservedAll, hsubmitted] at htwo
  have hlength : jobs.length = 1 := by simpa [JobQueue.extended, JobQueue.empty] using hone'
  obtain ⟨job, rfl⟩ := List.length_eq_one_iff.mp hlength
  refine ⟨⟨job, hdug, ?_⟩, submitted, ?_, ?_, ?_⟩
  · rw [hserved, hfirst]
    rfl
  · simpa [JobQueue.extended, JobQueue.empty, owed, shortTexts, start] using htwo
  · rw [hservedAll, hsubmitted]
    rfl
  · rw [hsame]
    exact hdugAll

end ChangeDigger

end Sentinel
