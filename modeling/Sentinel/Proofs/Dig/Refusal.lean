import Sentinel.Pipeline
import Sentinel.Proofs.Dig.Report
/-!
# Digs that are refused

A tree dig is asked for in four ways: of a node, by a request, from a path on with configured
defaults, and by parameters. Each of them first settles where to dig and for what, which changes
nothing, and then walks. Everything that is wrong with what was asked for comes to light before the
walk, so an error of the walk blames the repository or the queue.

1. `failsByWalk_ofTree`, `nodesVisited_ofTree`: what can end a walk, and that the root counts.
2. `stopsWalk_of_tree`: so an error of a dig with a valid scope is one of its walk.
3. `DigCall.run_eq`: a call is refused where its aim is, and is the dig at its aim otherwise.
4. `DigCall.error_of_digAt`: so an error is the refusal of the aim, which leaves the state alone, or one
   of the walk.
5. `validation_changes_nothing`: a call that ends in a validation error has changed nothing, and once
   a node was visited no call ends in one.
-/

namespace Sentinel

/-- An error that can end a walk: of the repository, or of the queue that the jobs go to. -/
inductive DispatchError.StopsWalk : DispatchError → Prop
  | access (cause : RepositoryError) : StopsWalk (.repositoryAccess cause)
  | submission (topic reason : String) : StopsWalk (.jobSubmission topic reason)

theorem DispatchError.StopsWalk.isValidation {e : DispatchError} (h : e.StopsWalk) :
    e.isValidation = false := by
  cases h <;> rfl

namespace DigReport

variable {accepting : Bool} {scope : DigScope} {start : Nat}

/-- If the report names an error, it is one of a walk. -/
def FailsByWalk (r : DigReport) : Prop := ∀ e, r.error = some e → e.StopsWalk

namespace FailsByWalk

theorem ofNone {r : DigReport} (h : r.error = none) : r.FailsByWalk := by
  intro e he
  rw [h] at he
  cases he

theorem failed {e : DispatchError} (h : e.StopsWalk) : (DigReport.failed e).FailsByWalk := by
  intro e' he
  cases he
  exact h

theorem andThen {a b : DigReport} (ha : a.FailsByWalk) (hb : b.FailsByWalk) :
    (a.andThen b).FailsByWalk := by
  cases h : a.error with
  | none =>
    have herror : (a.andThen b).error = b.error := by simp only [DigReport.andThen, h]
    intro e he
    exact hb e (herror ▸ he)
  | some e =>
    rw [andThen_of_error h]
    exact ha

theorem inTurn {rs : List DigReport} (h : ∀ r ∈ rs, r.FailsByWalk) : (DigReport.inTurn rs).FailsByWalk := by
  induction rs with
  | nil => exact ofNone rfl
  | cons r rs ih =>
    exact andThen (h r List.mem_cons_self) (ih fun r' hr' => h r' (List.mem_cons_of_mem r hr'))

end FailsByWalk

theorem failsByWalk_ofValue (p : ContentProperty) (limit : Int) (userId : Option String)
    (index : Option Nat) (length : Nat) : (ofValue accepting p limit userId index length).FailsByWalk := by
  rw [ofValue]
  split
  · exact .ofNone rfl
  · split
    · exact .ofNone rfl
    · exact .failed (.submission _ _)

theorem failsByWalk_ofProperties (ps : List ContentProperty) :
    (ofProperties accepting scope ps).FailsByWalk := by
  refine .inTurn fun r hr => ?_
  obtain ⟨p, -, rfl⟩ := List.mem_map.mp hr
  refine .inTurn fun r hr => ?_
  obtain ⟨place, -, rfl⟩ := List.mem_map.mp hr
  exact failsByWalk_ofValue p scope.maxLength none place.1 place.2

theorem failsByWalk_ofVisit (properties : Except RepositoryError (List ContentProperty)) :
    (ofVisit accepting scope properties).FailsByWalk := by
  refine .andThen (.ofNone rfl) ?_
  cases properties with
  | error cause => exact .failed (.access cause)
  | ok ps => exact failsByWalk_ofProperties ps

mutual

theorem failsByWalk_ofTree (n : ContentNode) : (ofTree accepting scope start n).FailsByWalk := by
  match n with
  | .mk path depth properties children =>
    rw [ofTree]
    refine .andThen (failsByWalk_ofVisit properties) ?_
    split
    · exact failsByWalk_ofListing children
    · exact .ofNone rfl

theorem failsByWalk_ofListing (children : Except RepositoryError (List ContentNode)) :
    (ofListing accepting scope start children).FailsByWalk := by
  match children with
  | .error cause =>
    rw [ofListing]
    exact .failed (.access cause)
  | .ok nodes =>
    rw [ofListing]
    exact failsByWalk_ofTrees nodes

theorem failsByWalk_ofTrees (ns : List ContentNode) : (ofTrees accepting scope start ns).FailsByWalk := by
  match ns with
  | [] =>
    rw [ofTrees]
    exact .ofNone rfl
  | n :: ns =>
    rw [ofTrees]
    exact .andThen (failsByWalk_ofTree n) (failsByWalk_ofTrees ns)

end

theorem nodesVisited_le_andThen (a b : DigReport) :
    a.counts.nodesVisited ≤ (a.andThen b).counts.nodesVisited := by
  cases h : a.error with
  | none =>
    simp only [andThen, h, DigSummary.nodesVisited_add]
    omega
  | some e => exact Nat.le_of_eq (by rw [andThen_of_error h])

theorem nodesVisited_ofTree (n : ContentNode) :
    0 < (ofTree accepting scope start n).counts.nodesVisited := by
  obtain ⟨path, depth, properties, children⟩ := n
  rw [ofTree]
  have hroot : 1 ≤ (ofVisit accepting scope properties).counts.nodesVisited :=
    nodesVisited_le_andThen ⟨[], [], { nodesVisited := 1 }, none⟩ _
  have hbelow := nodesVisited_le_andThen (ofVisit accepting scope properties)
    (if scope.maxDepth = -1 ∨ (depth : Int) < start + scope.maxDepth then
      ofListing accepting scope start children else nothing)
  omega

end DigReport

namespace Dig

theorem isValid_of_checkScope {scope : DigScope} (h : checkScope scope = .ok ()) : scope.IsValid := by
  rw [checkScope, Limit.check, Limit.check] at h
  by_cases hl : scope.maxLength < -1
  · rw [if_pos hl] at h
    cases h
  · by_cases hd : scope.maxDepth < -1
    · rw [if_neg hl, if_pos hd] at h
      cases h
    · rw [if_neg hl, if_neg hd] at h
      refine ⟨by omega, by omega, ?_⟩
      intro ht
      rw [ht] at h
      cases h

/-- An error of a dig with a valid scope comes from its walk, which has visited the root. -/
theorem stopsWalk_of_tree {root : ContentNode} {scope : DigScope} (hs : scope.IsValid) {s s' : DigState}
    {e : DispatchError} (h : (tree root scope).run.run s = (.error e, s')) :
    e.StopsWalk ∧ s'.summary.nodesVisited ≠ 0 := by
  rw [tree_run root hs] at h
  let report := DigReport.ofTree (!s.queue.rejecting) scope root.depth root
  obtain ⟨houtcome, rfl⟩ := Prod.mk.inj h
  have herror : report.error = some e := by
    change report.outcome.map _ = _ at houtcome
    rw [DigReport.outcome] at houtcome
    cases hr : report.error with
    | none => rw [hr] at houtcome; cases houtcome
    | some e' => rw [hr] at houtcome; cases houtcome; rfl
  refine ⟨DigReport.failsByWalk_ofTree root e herror, ?_⟩
  have hcounts : (report.after { s with summary := {} }).summary = report.counts := DigSummary.none_add _
  have hroot : 0 < report.counts.nodesVisited := DigReport.nodesVisited_ofTree root
  rw [hcounts]
  omega

end Dig

/-- A way to ask for a tree dig. -/
inductive DigCall where
  | fromNode (root : ContentNode) (scope : DigScope)
  | byRequest (session : Session) (request : DigRequest)
  | fromPath (p : Pipeline) (r : Repository) (path : String)
  | byParams (p : Pipeline) (r : Repository) (params : RequestParams)

namespace DigCall

def run [SizeLimit] : DigCall → Digs DigSummary
  | fromNode root scope => Dig.tree root scope
  | byRequest session request => Dig.request session request
  | fromPath p r path => p.dig r path
  | byParams p r params => p.digParams r params

/-- A root and a scope that no dig refuses. -/
structure Aim where
  root : ContentNode
  scope : DigScope
  isValid : scope.IsValid

/-- The aim at a node, unless the scope is refused. -/
def aimFrom (root : ContentNode) (scope : DigScope) : Except DispatchError Aim :=
  match h : Dig.checkScope scope with
  | .error e => .error e
  | .ok () => .ok ⟨root, scope, Dig.isValid_of_checkScope h⟩

/-- The aim of a request, unless there is no node at its path. -/
def aimOf (session : Session) (request : DigRequest) : Except DispatchError Aim :=
  match session.node? request.path with
  | .error _ => .error (.validation "path" ("No node at given path found: " ++ request.path))
  | .ok root => aimFrom root request.scope

/-- The aim of a request in a session of its own, unless there is no request or no session. -/
def aimIn (r : Repository) (request : Except DispatchError DigRequest) : Except DispatchError Aim :=
  match request with
  | .error e => .error e
  | .ok request =>
    match Session.openOn r with
    | .error cause => .error (.repositoryAccess cause)
    | .ok session => aimOf session request

/-- Where a call digs and for what, or why it does not. -/
def aim [SizeLimit] : DigCall → Except DispatchError Aim
  | fromNode root scope => aimFrom root scope
  | byRequest session request => aimOf session request
  | fromPath p r path => aimIn r (DigRequest.ofSettings path p.configuration.treeDig)
  | byParams p r params => aimIn r (DigRequest.ofParams params p.configuration.treeDig)

/-- The dig that has an aim. -/
def digAt (aim : Except DispatchError Aim) : Digs DigSummary :=
  match aim with
  | .error e => throw e
  | .ok aim => Dig.tree aim.root aim.scope

theorem tree_eq_digAt (root : ContentNode) (scope : DigScope) :
    Dig.tree root scope = digAt (aimFrom root scope) := by
  rw [aimFrom]
  split
  · next e he =>
    rw [Dig.tree, he]
    rfl
  · rfl

theorem request_eq_digAt (session : Session) (request : DigRequest) :
    Dig.request session request = digAt (aimOf session request) := by
  rw [Dig.request, aimOf]
  cases session.node? request.path with
  | error cause => rfl
  | ok root => exact tree_eq_digAt root request.scope

theorem digIn_eq_digAt (r : Repository) (request : Except DispatchError DigRequest) :
    (match request with
      | .error e => throw e
      | .ok request =>
        match Session.openOn r with
        | .error cause => throw (.repositoryAccess cause)
        | .ok session => Dig.request session request) = digAt (aimIn r request) := by
  cases request with
  | error e => rfl
  | ok request =>
    simp only [aimIn]
    cases Session.openOn r with
    | error cause => rfl
    | ok session => exact request_eq_digAt session request

/-- Whichever way a dig is asked for, it is refused where its aim is, and is the dig at its aim
otherwise. -/
theorem run_eq [SizeLimit] (call : DigCall) : call.run = digAt call.aim := by
  cases call with
  | fromNode root scope => exact tree_eq_digAt root scope
  | byRequest session request => exact request_eq_digAt session request
  | fromPath p r path => exact digIn_eq_digAt r _
  | byParams p r params => exact digIn_eq_digAt r _

theorem aimFrom_of_isValid (root : ContentNode) {scope : DigScope} (hs : scope.IsValid) :
    aimFrom root scope = .ok ⟨root, scope, hs⟩ := by
  rw [aimFrom]
  split
  · next e he =>
    rw [Dig.checkScope_of_isValid hs] at he
    cases he
  · rfl

/-- An error is the refusal of the aim, or one of the walk. -/
theorem error_of_digAt {aim : Except DispatchError Aim} {s s' : DigState} {e : DispatchError}
    (h : (digAt aim).run.run s = (.error e, s')) :
    aim = .error e ∧ s' = s ∨ e.StopsWalk ∧ s'.summary.nodesVisited ≠ 0 := by
  cases aim with
  | error e' =>
    obtain ⟨he, rfl⟩ := Prod.mk.inj h
    exact .inl ⟨congrArg Except.error (Except.error.inj he), rfl⟩
  | ok aim => exact .inr (Dig.stopsWalk_of_tree aim.isValid h)

/-- A call that ends in a validation error has left the waiting jobs, the number of accepted ones
and the audit trail as they were; a call that ends in an error after a node was visited blames the
repository or the queue; and before a node is visited nothing is changed. -/
theorem validation_changes_nothing [SizeLimit] (call : DigCall) (queue : JobQueue) (trail : Trail)
    {e : DispatchError} {s : DigState} (h : call.run.run.run ⟨queue, trail, {}⟩ = (.error e, s)) :
    (e.isValidation = true → s.queue = queue ∧ s.trail = trail) ∧
      (s.summary.nodesVisited ≠ 0 → e.StopsWalk) ∧
      (s.summary.nodesVisited = 0 → s = ⟨queue, trail, {}⟩) := by
  rw [run_eq] at h
  rcases error_of_digAt h with ⟨-, rfl⟩ | ⟨hstops, hvisited⟩
  · exact ⟨fun _ => ⟨rfl, rfl⟩, fun hn => absurd rfl hn, fun _ => rfl⟩
  · refine ⟨?_, fun _ => hstops, fun hn => absurd hn hvisited⟩
    intro hvalidation
    rw [hstops.isValidation] at hvalidation
    cases hvalidation

section Unbounded

attribute [local instance] SizeLimit.unbounded

/-- Of two digs of the broken tree into a queue where a job waits, one asks for a depth that no dig has,
and leaves the queue alone; the other visits three nodes and is ended by the repository. -/
theorem validation_changes_nothing_broken :
    let waiting : JobQueue := ⟨[⟨"t", .empty⟩], 1, false⟩
    (∃ s, (fromNode Dig.brokenTree (.binaries (-2))).run.run.run ⟨waiting, [], {}⟩ =
        (.error (.invalidValue "maxDepth" "-2"), s) ∧ s.queue = waiting ∧ s.trail = []) ∧
      ∃ e s, (fromNode Dig.brokenTree (.binaries 1)).run.run.run ⟨waiting, [], {}⟩ = (.error e, s) ∧
        s.summary.nodesVisited = 3 ∧ e.StopsWalk := by
  intro waiting
  have hrefused : (fromNode Dig.brokenTree (.binaries (-2))).run.run.run ⟨waiting, [], {}⟩ =
      (.error (.invalidValue "maxDepth" "-2"), ⟨waiting, [], {}⟩) := by
    have htext : Text.intText (-2) = "-2" := by cbv
    have hscope : Dig.checkScope (.binaries (-2)) = .error (.invalidValue "maxDepth" "-2") := by
      rw [← htext]
      rfl
    rw [run, Dig.tree, hscope]
    rfl
  have hvalid : (DigScope.binaries 1).IsValid := ⟨by decide, by decide, by decide⟩
  have hbroken := Dig.tree_run Dig.brokenTree hvalid ⟨waiting, [], {}⟩
  exact ⟨⟨_, hrefused, (validation_changes_nothing _ waiting [] hrefused).1 rfl⟩, _, _, hbroken, rfl,
    (validation_changes_nothing (fromNode Dig.brokenTree (.binaries 1)) waiting [] hbroken).2.1 (by decide)⟩

end Unbounded

end DigCall

end Sentinel
