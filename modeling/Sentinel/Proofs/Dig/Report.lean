import Sentinel.Dig.Walk
/-!
# Reports on digs

A report says what a dig comes to, as plain data: the jobs it submits, the events it records, what it
counts, and the error that ends it. The report on a tree is read off the tree by recursion: first
the values of the node in the order of its properties and of their places, then, unless the node lies
as deep as is allowed, the reports on the children in turn, up to the first error.

1. `Reports.bind`: the report on two steps is the report on the first, and then on the second unless
   the first ends in an error.
2. `reports_walk`: the recursive walk does what the report on the node says.
3. `tree_run_eq_report`: so does a dig with its stack, on every queue, with the same counts or the
   same error; the queue gets the jobs of the report behind those that wait, and nothing else.
-/

namespace Sentinel

/-- The job as a queue holds it. -/
def ScanJob.queued (j : ScanJob) : QueuedJob := ⟨j.topic, j.attributes⟩

instance : Add DigSummary where
  add a b := {
    nodesVisited := a.nodesVisited + b.nodesVisited
    propertiesResolved := a.propertiesResolved + b.propertiesResolved
    jobsEmitted := a.jobsEmitted + b.jobsEmitted
    valuesSkipped := a.valuesSkipped + b.valuesSkipped }

namespace DigSummary

@[simp] theorem nodesVisited_add (a b : DigSummary) :
    (a + b).nodesVisited = a.nodesVisited + b.nodesVisited := rfl

theorem add_none (a : DigSummary) : a + {} = a := rfl

theorem none_add (a : DigSummary) : {} + a = a := by
  show DigSummary.mk (0 + _) (0 + _) (0 + _) (0 + _) = a
  simp only [Nat.zero_add]

theorem add_assoc (a b c : DigSummary) : a + b + c = a + (b + c) := by
  show DigSummary.mk (_ + _ + _) (_ + _ + _) (_ + _ + _) (_ + _ + _) = DigSummary.mk _ _ _ _
  simp only [Nat.add_assoc]
  rfl

end DigSummary

/-- Whether a dig looks at the values of a property. -/
def DigScope.wants (scope : DigScope) (p : ContentProperty) : Bool :=
  scope.types.contains p.propertyType && scope.accepts p.path

/-- A scope that no dig refuses. -/
structure DigScope.IsValid (scope : DigScope) : Prop where
  maxLength : -1 ≤ scope.maxLength
  maxDepth : -1 ≤ scope.maxDepth
  types : scope.types ≠ []

/-- A dig for all binary values down to some depth. -/
def DigScope.binaries (maxDepth : Int) : DigScope := ⟨fun _ => true, [.binary], -1, maxDepth⟩

/-- What a dig, or a part of one, comes to. -/
structure DigReport where
  jobs : List ScanJob
  events : List AuditEvent
  counts : DigSummary
  error : Option DispatchError

namespace DigReport

def nothing : DigReport := ⟨[], [], {}, none⟩

def failed (e : DispatchError) : DigReport := ⟨[], [], {}, some e⟩

/-- One part and then another, which is left out behind an error. -/
def andThen (a b : DigReport) : DigReport :=
  match a.error with
  | none => ⟨a.jobs ++ b.jobs, a.events ++ b.events, a.counts + b.counts, b.error⟩
  | some _ => a

/-- One part after the other up to the first error. -/
def inTurn (rs : List DigReport) : DigReport := rs.foldr andThen nothing

/-- The report on one value: a value beyond the limit is skipped, the job for any other is submitted
or refused. -/
def ofValue (accepting : Bool) (p : ContentProperty) (limit : Int) (userId : Option String)
    (index : Option Nat) (length : Nat) : DigReport :=
  let job : ScanJob := { path := p.path, index, userId, propertyType := p.propertyType }
  if limit ≠ -1 ∧ limit < length then
    ⟨[], [.valueSkipped p.path index length limit], { valuesSkipped := 1 }, none⟩
  else if accepting then
    ⟨[job], [.jobSubmitted job.topic p.path index userId], { jobsEmitted := 1 }, none⟩
  else failed (.jobSubmission job.topic "queue is not accepting jobs")

/-- The report on a property: its values in the order of their places. -/
def ofProperty (accepting : Bool) (p : ContentProperty) (limit : Int) (userId : Option String) :
    DigReport :=
  inTurn (p.places.map fun place => ofValue accepting p limit userId place.1 place.2)

/-- The report on the properties of a node: those of a wanted type whose path is accepted. -/
def ofProperties (accepting : Bool) (scope : DigScope) (ps : List ContentProperty) : DigReport :=
  inTurn ((ps.filter scope.wants).map fun p => ofProperty accepting p scope.maxLength none)

def ofVisit (accepting : Bool) (scope : DigScope)
    (properties : Except RepositoryError (List ContentProperty)) : DigReport :=
  andThen ⟨[], [], { nodesVisited := 1 }, none⟩ <|
    match properties with
    | .error e => failed (.repositoryAccess e)
    | .ok ps => ofProperties accepting scope ps

mutual

/-- The report on a node and, as far as the depth below the start of the dig allows, on all that
lies below it. -/
def ofTree (accepting : Bool) (scope : DigScope) (start : Nat) : ContentNode → DigReport
  | .mk _ depth properties children =>
    andThen (ofVisit accepting scope properties) <|
      if scope.maxDepth = -1 ∨ (depth : Int) < start + scope.maxDepth then
        ofListing accepting scope start children
      else nothing

def ofListing (accepting : Bool) (scope : DigScope) (start : Nat) :
    Except RepositoryError (List ContentNode) → DigReport
  | .error e => failed (.repositoryAccess e)
  | .ok nodes => ofTrees accepting scope start nodes

def ofTrees (accepting : Bool) (scope : DigScope) (start : Nat) : List ContentNode → DigReport
  | [] => nothing
  | n :: ns => andThen (ofTree accepting scope start n) (ofTrees accepting scope start ns)

end

/-- The queue behind a dig: the jobs stand behind those that wait. -/
def queueAfter (r : DigReport) (q : JobQueue) : JobQueue :=
  { q with jobs := q.jobs ++ r.jobs.map ScanJob.queued, submitted := q.submitted + r.jobs.length }

/-- The state behind a dig. -/
def after (r : DigReport) (s : DigState) : DigState where
  queue := r.queueAfter s.queue
  trail := s.trail ++ r.events
  summary := s.summary + r.counts

/-- How a part of a dig ends. -/
def outcome (r : DigReport) : Except DispatchError Unit :=
  match r.error with
  | none => .ok ()
  | some e => .error e

theorem andThen_of_error {a b : DigReport} {e : DispatchError} (h : a.error = some e) :
    a.andThen b = a := by
  simp only [andThen, h]

theorem after_nothing (s : DigState) : nothing.after s = s := by
  obtain ⟨⟨jobs, submitted, rejecting⟩, trail, summary⟩ := s
  simp [after, queueAfter, nothing, DigSummary.add_none]

theorem after_andThen {a b : DigReport} (h : a.error = none) (s : DigState) :
    (a.andThen b).after s = b.after (a.after s) := by
  simp only [andThen, h, after, queueAfter, List.map_append, List.length_append, List.append_assoc,
    Nat.add_assoc, DigSummary.add_assoc]

theorem outcome_andThen {a b : DigReport} (h : a.error = none) :
    (a.andThen b).outcome = b.outcome := by
  simp only [outcome, andThen, h]

end DigReport

namespace Dig

/-- A step of a dig does what a report says, whatever state it starts from, as long as the queue
accepts jobs or refuses them as the report takes it to. -/
def Reports (accepting : Bool) (x : Digs Unit) (r : DigReport) : Prop :=
  ∀ s : DigState, s.queue.rejecting = !accepting → x.run.run s = (r.outcome, r.after s)

variable {accepting : Bool} {scope : DigScope}

namespace Reports

theorem nothing : Reports accepting (pure ()) .nothing := by
  intro s _
  rw [DigReport.after_nothing]
  rfl

theorem failed (e : DispatchError) : Reports accepting (throw e) (.failed e) := by
  intro s _
  have h : (DigReport.failed e).after s = s := DigReport.after_nothing s
  rw [h]
  rfl

theorem bind {x y : Digs Unit} {a b : DigReport} (hx : Reports accepting x a)
    (hy : Reports accepting y b) : Reports accepting (x >>= fun _ => y) (a.andThen b) := by
  intro s hs
  rw [ExceptT.run_bind, StateT.run_bind, hx s hs]
  cases h : a.error with
  | none =>
    have ha : a.outcome = .ok () := by simp only [DigReport.outcome, h]
    rw [ha, DigReport.after_andThen h, DigReport.outcome_andThen h]
    exact hy (a.after s) hs
  | some e =>
    have ha : a.outcome = .error e := by simp only [DigReport.outcome, h]
    rw [DigReport.andThen_of_error h, ha]
    rfl

end Reports

theorem reports_record (e : AuditEvent) : Reports accepting (record e) ⟨[], [e], {}, none⟩ := by
  intro s _
  simp only [DigReport.after, DigReport.queueAfter, List.map_nil, List.append_nil]
  rfl

theorem reports_count {f : DigSummary → DigSummary} {c : DigSummary} (h : ∀ a, f a = a + c) :
    Reports accepting (count f) ⟨[], [], c, none⟩ := by
  intro s _
  simp only [DigReport.after, DigReport.queueAfter, List.map_nil, List.append_nil, ← h]
  rfl

theorem reports_submit (j : ScanJob) :
    Reports accepting (submit j)
      (if accepting then
        ⟨[j], [.jobSubmitted j.topic j.path j.index j.userId], { jobsEmitted := 1 }, none⟩
      else .failed (.jobSubmission j.topic "queue is not accepting jobs")) := by
  intro s hs
  have hget : (get : Digs DigState).run.run s = (.ok s, s) := rfl
  -- The queue is read first, and what comes then depends on what it answers.
  rw [submit, ExceptT.run_bind, StateT.run_bind, hget]
  show StateT.run _ s = _
  cases accepting with
  | true =>
    have hqueue : s.queue.submit j.topic j.attributes = .ok
        { s.queue with
          jobs := s.queue.jobs ++ [⟨j.topic, j.attributes⟩]
          submitted := s.queue.submitted + 1 } := if_neg (by rw [hs]; decide)
    simp only [hqueue]
    rfl
  | false =>
    have hqueue : s.queue.submit j.topic j.attributes =
        .error (.jobSubmission j.topic "queue is not accepting jobs") := if_pos hs
    simp only [hqueue]
    exact Reports.failed _ s hs

theorem reports_emitValue (p : ContentProperty) (limit : Int) (userId : Option String)
    (index : Option Nat) (length : Nat) :
    Reports accepting (emitValue p limit userId index length)
      (.ofValue accepting p limit userId index length) := by
  rw [emitValue, DigReport.ofValue]
  by_cases hl : limit ≠ -1 ∧ limit < length
  · have hw : ¬withinLimit length limit = true := by
      rw [withinLimit_iff]
      omega
    rw [if_pos hl, if_neg hw]
    have hcount : Reports accepting (count fun c => { c with valuesSkipped := c.valuesSkipped + 1 })
        ⟨[], [], { valuesSkipped := 1 }, none⟩ := reports_count fun _ => rfl
    exact Reports.bind (reports_record _) hcount
  · have hw : withinLimit length limit = true := by
      rw [withinLimit_iff]
      omega
    rw [if_neg hl, if_pos hw]
    exact reports_submit _

theorem reports_emitPlaces (p : ContentProperty) (limit : Int) (userId : Option String)
    (places : List (Option Nat × Nat)) :
    Reports accepting (emitPlaces p limit userId places)
      (.inTurn (places.map fun place => .ofValue accepting p limit userId place.1 place.2)) := by
  induction places with
  | nil => exact Reports.nothing
  | cons place places ih => exact Reports.bind (reports_emitValue p limit userId place.1 place.2) ih

theorem reports_emitProperties (ps : List ContentProperty) :
    Reports accepting (emitProperties scope ps) (.ofProperties accepting scope ps) := by
  induction ps with
  | nil => exact Reports.nothing
  | cons p ps ih =>
    rw [emitProperties, DigReport.ofProperties]
    by_cases hp : scope.wants p = true
    · rw [List.filter_cons_of_pos hp]
      rw [DigScope.wants] at hp
      rw [if_pos hp]
      exact Reports.bind (reports_emitPlaces p scope.maxLength none p.places) ih
    · rw [List.filter_cons_of_neg hp]
      rw [DigScope.wants] at hp
      rw [if_neg hp]
      exact ih

theorem reports_visit (n : ContentNode) :
    Reports accepting (visit scope n) (.ofVisit accepting scope n.properties) := by
  have hcount : Reports accepting (count fun c => { c with nodesVisited := c.nodesVisited + 1 })
      ⟨[], [], { nodesVisited := 1 }, none⟩ := reports_count fun _ => rfl
  refine Reports.bind hcount ?_
  cases n.properties with
  | error e => exact Reports.failed _
  | ok ps => exact reports_emitProperties ps

/-- The test that a dig makes before it goes below a node is the one that the report makes. -/
theorem all_bound_iff {root : ContentNode} (hd : -1 ≤ scope.maxDepth) (depth : Nat) :
    (bound root scope).all (depth < ·) = true ↔
      (scope.maxDepth = -1 ∨ (depth : Int) < root.depth + scope.maxDepth) := by
  rw [bound]
  split
  · have : scope.maxDepth = -1 := by omega
    simp [this]
  · simp only [Option.all_some, decide_eq_true_eq]
    omega

mutual

theorem reports_walk {root : ContentNode} (hd : -1 ≤ scope.maxDepth) (n : ContentNode) :
    Reports accepting (walk scope (bound root scope) n) (.ofTree accepting scope root.depth n) := by
  match n with
  | .mk path depth properties children =>
    rw [walk, DigReport.ofTree]
    refine Reports.bind (reports_visit _) ?_
    -- The walk and the report go below the node under the same condition.
    by_cases hb : (bound root scope).all (depth < ·)
    · rw [if_pos hb, if_pos ((all_bound_iff hd depth).mp hb)]
      exact reports_walkBelow hd children
    · rw [if_neg hb, if_neg (mt (all_bound_iff hd depth).mpr hb)]
      exact Reports.nothing

theorem reports_walkBelow {root : ContentNode} (hd : -1 ≤ scope.maxDepth)
    (children : Except RepositoryError (List ContentNode)) :
    Reports accepting (walkBelow scope (bound root scope) children)
      (.ofListing accepting scope root.depth children) := by
  match children with
  | .error e =>
    rw [walkBelow, DigReport.ofListing]
    exact Reports.failed _
  | .ok nodes =>
    rw [walkBelow, DigReport.ofListing]
    exact reports_walkAll hd nodes

theorem reports_walkAll {root : ContentNode} (hd : -1 ≤ scope.maxDepth) (ns : List ContentNode) :
    Reports accepting (walkAll scope (bound root scope) ns)
      (.ofTrees accepting scope root.depth ns) := by
  match ns with
  | [] =>
    rw [walkAll, DigReport.ofTrees]
    exact Reports.nothing
  | n :: ns =>
    rw [walkAll, DigReport.ofTrees]
    exact Reports.bind (reports_walk hd n) (reports_walkAll hd ns)

end

theorem checkScope_of_isValid (hs : scope.IsValid) : checkScope scope = .ok () := by
  have hl : Limit.check "maxLength" scope.maxLength = .ok () := if_neg (by have := hs.maxLength; omega)
  have hd : Limit.check "maxDepth" scope.maxDepth = .ok () := if_neg (by have := hs.maxDepth; omega)
  have ht : scope.types.isEmpty = false := by simpa using hs.types
  rw [checkScope, hl, hd, ht]
  rfl

/-- Starts to count at zero, and answers with the counts of a part of a dig. -/
def counted (x : Digs Unit) : Digs DigSummary := do
  modify fun s => { s with summary := {} }
  x
  return (← get).summary

theorem counted_run {x : Digs Unit} {r : DigReport} (hx : Reports accepting x r) (s : DigState)
    (hs : s.queue.rejecting = !accepting) :
    (counted x).run.run s =
      (r.outcome.map fun _ => r.counts, r.after { s with summary := {} }) := by
  have hw := hx { s with summary := {} } hs
  rw [counted, ExceptT.run_bind, StateT.run_bind]
  show (((x >>= fun _ => do return (← get).summary).run.run { s with summary := {} }) : Id _) = _
  rw [ExceptT.run_bind, StateT.run_bind, hw]
  cases he : r.error with
  | none =>
    have ho : r.outcome = .ok () := by simp only [DigReport.outcome, he]
    have hc : (r.after { s with summary := {} }).summary = r.counts := DigSummary.none_add _
    rw [ho]
    show (Except.ok (r.after { s with summary := {} }).summary, _) = _
    rw [hc]
    rfl
  | some e =>
    have ho : r.outcome = .error e := by simp only [DigReport.outcome, he]
    rw [ho]
    rfl

/-- A dig of a valid scope is the walk through the root with its counts. -/
theorem tree_eq_walk (root : ContentNode) (hs : scope.IsValid) :
    tree root scope = counted (walk scope (bound root scope) root) := by
  rw [tree, checkScope_of_isValid hs, walkStack_root]
  rfl

theorem tree_run (root : ContentNode) (hs : scope.IsValid) (s : DigState) :
    let report := DigReport.ofTree (!s.queue.rejecting) scope root.depth root
    (tree root scope).run.run s =
      (report.outcome.map fun _ => report.counts, report.after { s with summary := {} }) := by
  rw [tree_eq_walk root hs]
  exact counted_run (reports_walk hs.maxDepth root) s (by simp)

/-- A dig, with its stack of nodes that wait, ends as the report on the tree says: with its counts
or its first error, with exactly its jobs behind those that waited in the queue, and with its
events at the end of the trail. -/
theorem tree_run_eq_report (root : ContentNode) (hs : scope.IsValid) (s : DigState) :
    let report := DigReport.ofTree (!s.queue.rejecting) scope root.depth root
    ((tree root scope).run.run s).1 =
        (match report.error with
        | none => .ok report.counts
        | some e => .error e) ∧
      ((tree root scope).run.run s).2.queue =
        { jobs := s.queue.jobs ++ report.jobs.map ScanJob.queued
          submitted := s.queue.submitted + report.jobs.length
          rejecting := s.queue.rejecting } ∧
      ((tree root scope).run.run s).2.trail = s.trail ++ report.events := by
  intro report
  rw [tree_run root hs s]
  refine ⟨?_, rfl, rfl⟩
  show report.outcome.map _ = _
  cases he : report.error with
  | none => rw [DigReport.outcome, he]; rfl
  | some e => rw [DigReport.outcome, he]; rfl

/-- Three children below a root, of which the second cannot be read. -/
def brokenTree : ContentNode :=
  .mk "/" 0 (.ok []) (.ok [
    .mk "/a" 1 (.ok [⟨"/a/data", .binary, .single 3⟩]) (.ok []),
    .mk "/b" 1 (.error (.accessFailed "/b" "access denied")) (.ok []),
    .mk "/c" 1 (.ok [⟨"/c/data", .binary, .single 3⟩]) (.ok [])])

/-- The dig of the broken tree, into a queue where a job waits, ends with the failure of the second
child; the job for the first child stays behind the one that waited. -/
theorem tree_run_eq_report_broken :
    let waiting : JobQueue := ⟨[⟨"t", .empty⟩], 1, false⟩
    (DigScope.binaries 1).IsValid ∧
      ((tree brokenTree (.binaries 1)).run.run ⟨waiting, [], {}⟩).1 =
        .error (.repositoryAccess (.accessFailed "/b" "access denied")) ∧
      ((tree brokenTree (.binaries 1)).run.run ⟨waiting, [], {}⟩).2.queue =
        ⟨[⟨"t", .empty⟩, ScanJob.queued ⟨"/a/data", none, none, .binary⟩], 2, false⟩ := by
  intro waiting
  have hs : (DigScope.binaries 1).IsValid := ⟨by decide, by decide, by decide⟩
  obtain ⟨outcome, queue, -⟩ := tree_run_eq_report brokenTree hs ⟨waiting, [], {}⟩
  exact ⟨hs, outcome, queue⟩

end Dig

end Sentinel
