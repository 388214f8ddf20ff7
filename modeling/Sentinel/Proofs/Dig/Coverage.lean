import Mathlib.Data.List.Flatten
import Sentinel.Proofs.Content.Places
import Sentinel.Proofs.Dig.Accepted
/-!
# What a dig covers

A dig of a node of a repository comes to visiting, one after the other and without looking below
them, the nodes that the path leads to and that lie within the depth, in the order of their segments.

1. `walk_view`: the walk through the view of a node visits the nodes of the descent from its path.
2. `tree_eq_visits`: a dig visits what is covered.
3. `nodup_offers`: no two values of the nodes that are covered share a path and an index.
4. `tree_run_covers`: the closed form of a dig into a queue that accepts jobs.
-/

namespace Sentinel

namespace Repository

variable {r : Repository} {p q : String}

/-- The node at a path, seen from the root. -/
def nodeAt (r : Repository) (p : String) : ContentNode := r.view p (Path.depth p)

/-- The properties of the node at a path in the order of their names; none where there is no node. -/
def propertiesOf (r : Repository) (p : String) : List ContentProperty :=
  ((r.nodes.get? p).getD KeyMap.empty).entries.map fun (name, s) => s.describe (Path.child p name)

theorem node?_eq (hf : r.failing = []) (hp : p ∈ r.nodes.keys) : r.node? p = .ok (r.nodeAt p) := by
  rw [node?, checkAccess_of_failing_nil hf]
  exact if_pos (KeyMap.contains_iff.mpr hp)

theorem properties_nodeAt (hf : r.failing = []) (hp : p ∈ r.nodes.keys) :
    (r.nodeAt p).properties = .ok (r.propertiesOf p) := by
  obtain ⟨m, hm⟩ := KeyMap.mem_keys.mp hp
  rw [nodeAt, view_eq hf, propertiesOf, hm]
  show r.propertiesAt p = _
  rw [propertiesAt, checkAccess_of_failing_nil hf, hm]
  rfl

theorem stored?_child (h : r.IsSound) (hf : r.failing = []) {m : KeyMap StoredProperty}
    (hm : r.nodes.get? q = some m) {e : String × StoredProperty} (he : e ∈ m.entries) :
    r.stored? (Path.child q e.1) = .ok e.2 := by
  have hsplit : Path.split? (Path.child q e.1) = some (q, e.1) :=
    Path.split?_child (h.normalized q (KeyMap.mem_keys.mpr ⟨m, hm⟩)) (h.properties q m hm e he).1
  have hget : m.get? e.1 = some e.2 := (KeyMap.get?_eq_some_iff m).mpr he
  rw [stored?_eq hf, hsplit, Option.bind_some, propertyAt?, hm, Option.bind_some, hget]

end Repository

theorem ContentProperty.pairwise_places (c : ContentProperty) :
    c.places.Pairwise fun a b => a.1 ≠ b.1 := by
  rw [places]
  cases c.lengths with
  | single length => exact List.pairwise_singleton _ _
  | multiple lengths =>
    have hnodup : (lengths.zipIdx.map (·.2)).Nodup := by
      rw [List.zipIdx_map_snd]
      exact List.nodup_range'
    refine List.pairwise_map.mpr ((List.pairwise_map.mp hnodup).imp ?_)
    intro a b hab heq
    exact hab (Option.some.inj heq)

namespace Repository

variable {r : Repository} {q : String} {scope : DigScope}

theorem split?_of_mem_propertiesOf (h : r.IsSound) (hq : q ∈ r.nodes.keys) {c : ContentProperty}
    (hc : c ∈ r.propertiesOf q) : ∃ name, Path.split? c.path = some (q, name) := by
  obtain ⟨m, hm⟩ := KeyMap.mem_keys.mp hq
  rw [propertiesOf, hm] at hc
  obtain ⟨e, he, rfl⟩ := List.mem_map.mp hc
  exact ⟨e.1, Path.split?_child (h.normalized q hq) (h.properties q m hm e he).1⟩

theorem pairwise_propertiesOf (h : r.IsSound) (hq : q ∈ r.nodes.keys) :
    (r.propertiesOf q).Pairwise fun a b => a.path ≠ b.path := by
  obtain ⟨m, hm⟩ := KeyMap.mem_keys.mp hq
  rw [propertiesOf, hm]
  refine List.pairwise_map.mpr (m.sorted.imp_of_mem ?_)
  intro a b ha hb hlt heq
  have hsplit (e : String × StoredProperty) (he : e ∈ m.entries) :
      Path.split? (Path.child q e.1) = some (q, e.1) :=
    Path.split?_child (h.normalized q hq) (h.properties q m hm e he).1
  have hname : some (q, a.1) = some (q, b.1) := by
    rw [← hsplit a ha, ← hsplit b hb]
    exact congrArg Path.split? heq
  exact Std.ne_of_lt hlt (Prod.mk.inj (Option.some.inj hname)).2

theorem path_of_mem_offers {ps : List ContentProperty} {v : String × Option Nat}
    (hv : v ∈ scope.offers ps) : ∃ c ∈ ps, v.1 = c.path := by
  obtain ⟨c, hc, hv⟩ := List.mem_flatMap.mp hv
  obtain ⟨place, -, rfl⟩ := List.mem_map.mp hv
  exact ⟨c, (List.mem_filter.mp hc).1, rfl⟩

theorem sublist_offers (ps : List ContentProperty) :
    List.Sublist ((scope.jobs ps).map fun j => (j.path, j.index)) (scope.offers ps) := by
  rw [DigScope.jobs, DigScope.offers, List.map_flatMap]
  refine List.Sublist.flatMap_right _ fun c _ => ?_
  rw [DigScope.jobsOf, List.map_map]
  exact List.filter_sublist.map _

theorem nodup_offers_propertiesOf (h : r.IsSound) (hq : q ∈ r.nodes.keys) :
    (scope.offers (r.propertiesOf q)).Nodup := by
  refine List.pairwise_flatMap.mpr ⟨?_, ?_⟩
  · intro c _
    refine List.pairwise_map.mpr (c.pairwise_places.imp ?_)
    intro a b hab heq
    exact hab (Prod.mk.inj heq).2
  · refine ((pairwise_propertiesOf h hq).filter _).imp ?_
    intro c d hcd v hv w hw heq
    obtain ⟨place, -, rfl⟩ := List.mem_map.mp hv
    obtain ⟨place', -, rfl⟩ := List.mem_map.mp hw
    exact hcd (Prod.mk.inj heq).1

theorem nodup_offers (h : r.IsSound) {qs : List String} (hqs : ∀ q ∈ qs, q ∈ r.nodes.keys)
    (hnodup : qs.Nodup) : (qs.flatMap fun q => scope.offers (r.propertiesOf q)).Nodup := by
  refine List.pairwise_flatMap.mpr ⟨?_, ?_⟩
  · intro q hq
    exact nodup_offers_propertiesOf h (hqs q hq)
  · refine hnodup.imp_of_mem ?_
    intro a b ha hb hab v hv w hw heq
    obtain ⟨c, hc, hvc⟩ := path_of_mem_offers hv
    obtain ⟨d, hd, hwd⟩ := path_of_mem_offers hw
    obtain ⟨name, hname⟩ := split?_of_mem_propertiesOf h (hqs a ha) hc
    obtain ⟨name', hname'⟩ := split?_of_mem_propertiesOf h (hqs b hb) hd
    rw [← hvc, heq, hwd, hname'] at hname
    exact hab (Prod.mk.inj (Option.some.inj hname)).1.symm

end Repository

namespace Dig

open Sentinel.Path (segments depth)

variable {scope : DigScope} {bound : Option Nat} {r : Repository} {p : String}

/-- Visits one node after the other and nothing below them. -/
def visitEach (scope : DigScope) : List ContentNode → Digs Unit
  | [] => pure ()
  | n :: ns => do
    visit scope n
    visitEach scope ns

theorem visitEach_append (xs ys : List ContentNode) :
    visitEach scope (xs ++ ys) = (visitEach scope xs >>= fun _ => visitEach scope ys) := by
  induction xs with
  | nil => rw [List.nil_append, visitEach, pure_bind]
  | cons x xs ih => rw [List.cons_append, visitEach, visitEach, ih, bind_assoc]

theorem walkAll_map {α : Type} {f : α → List ContentNode} {g : α → ContentNode} (xs : List α)
    (h : ∀ x ∈ xs, walk scope bound (g x) = visitEach scope (f x)) :
    walkAll scope bound (xs.map g) = visitEach scope (xs.flatMap f) := by
  induction xs with
  | nil => rw [List.map_nil, List.flatMap_nil, walkAll, visitEach]
  | cons x xs ih =>
    obtain ⟨hx, hxs⟩ := List.forall_mem_cons.mp h
    rw [List.map_cons, walkAll, hx, ih hxs, List.flatMap_cons, visitEach_append]

/-- The walk through a node of a repository visits the nodes of the descent from its path. -/
theorem walk_nodeAt {p : String} (h : r.IsSound) (hf : r.failing = []) (hp : p ∈ r.nodes.keys) :
    walk scope bound (r.nodeAt p) = visitEach scope ((r.descent bound p).map r.nodeAt) := by
  -- By recursion along the descent: the view of a child has the depth of its path.
  have ih (c : String) (hc : c ∈ r.childPaths p) :
      walk scope bound (r.view c (depth p + 1)) =
        visitEach scope ((r.descent bound c).map r.nodeAt) := by
    obtain ⟨hck, s, -, hseg⟩ := (Repository.mem_childPaths h (h.normalized p hp)).mp hc
    have hd : depth p + 1 = depth c := by
      rw [depth, depth, hseg, List.length_append]
      rfl
    rw [hd]
    exact walk_nodeAt h hf hck
  rw [Repository.descent_eq, List.map_cons, visitEach, Repository.nodeAt,
    Repository.view_eq hf, walk]
  congr 1
  funext _
  split
  · rw [walkBelow, List.map_flatMap]
    exact walkAll_map _ ih
  · rfl
termination_by r.longest + 1 - p.length
decreasing_by exact Repository.measure_childPaths_lt hc

/-- A dig of a node of a repository visits what is covered, and nothing else. -/
theorem tree_eq_visits (h : r.IsSound) (hf : r.failing = []) (hp : p ∈ r.nodes.keys)
    (hs : scope.IsValid) :
    tree (r.nodeAt p) scope =
      counted (visitEach scope ((r.covered p scope.maxDepth).map r.nodeAt)) := by
  have hdepth : (r.nodeAt p).depth = depth p := by
    rw [Repository.nodeAt, Repository.view_eq hf]
    rfl
  rw [tree_eq_walk _ hs, walk_nodeAt h hf hp, bound, hdepth,
    Repository.descent_eq_covered h hp hs.maxDepth]

theorem reports_visitEach {accepting : Bool} (ns : List ContentNode) :
    Reports accepting (visitEach scope ns)
      (.inTurn (ns.map fun n => .ofVisit accepting scope n.properties)) := by
  induction ns with
  | nil => exact Reports.nothing
  | cons n ns ih => exact Reports.bind (reports_visit n) ih

/-- A dig into a queue that accepts jobs ends without an error, with the jobs and the events of all
that is covered. -/
theorem tree_run_accepted (h : r.IsSound) (hf : r.failing = []) (hp : p ∈ r.nodes.keys)
    (hs : scope.IsValid) (s : DigState) (ha : s.queue.rejecting = false) :
    ∃ report : DigReport,
      report.Offers (r.covered p scope.maxDepth).length
        ((r.covered p scope.maxDepth).flatMap fun q => scope.jobs (r.propertiesOf q))
        ((r.covered p scope.maxDepth).flatMap fun q => scope.offers (r.propertiesOf q)) ∧
      (tree (r.nodeAt p) scope).run.run s =
        (.ok report.counts, report.after { s with summary := {} }) := by
  let visited := r.covered p scope.maxDepth
  let reportAt q := DigReport.ofVisit true scope (r.nodeAt q).properties
  have heach (q : String) (hq : q ∈ visited) :
      (reportAt q).Offers 1 (scope.jobs (r.propertiesOf q)) (scope.offers (r.propertiesOf q)) := by
    show (DigReport.ofVisit true scope (r.nodeAt q).properties).Offers _ _ _
    rw [Repository.properties_nodeAt hf (Repository.mem_covered.mp hq).1]
    exact DigReport.offers_ofVisit scope _
  have hoffers := DigReport.Offers.inTurn visited heach
  rw [Nat.one_mul] at hoffers
  refine ⟨.inTurn (visited.map reportAt), hoffers, ?_⟩
  have hreports : Reports true (visitEach scope (visited.map r.nodeAt))
      (.inTurn (visited.map reportAt)) := by
    have hmap : (visited.map r.nodeAt).map (fun n => DigReport.ofVisit true scope n.properties) =
        visited.map reportAt := List.map_map
    rw [← hmap]
    exact reports_visitEach _
  have ho : (DigReport.inTurn (visited.map reportAt)).outcome = .ok () := by
    rw [DigReport.outcome, hoffers.error]
  rw [tree_eq_visits h hf hp hs, counted_run hreports s ha, ho]
  rfl

/-- The closed form of a dig into a queue that accepts jobs. It visits the node that it starts from
and the nodes whose paths go on from there behind a slash, as far as the depth allows, each once and
in increasing order; its events are about the values of these nodes, each once. -/
theorem tree_run_covers (hr : r.Reachable) (hf : r.failing = []) (hp : p ∈ r.nodes.keys)
    (hs : scope.IsValid) (s : DigState) (ha : s.queue.rejecting = false) :
    let covered := r.covered p scope.maxDepth
    let offers := covered.flatMap fun q => scope.offers (r.propertiesOf q)
    (∀ q, q ∈ covered ↔
        q ∈ r.nodes.keys ∧ (q = p ∨ p = "/" ∨ (p ++ "/").toList <+: q.toList) ∧
          (0 ≤ scope.maxDepth → (depth q : Int) ≤ depth p + scope.maxDepth)) ∧
      covered.Pairwise Path.Before ∧
      (p ≠ "/" → ∀ more : String, more ≠ "" → '/' ∉ more.toList → p ++ more ∉ covered) ∧
      r.node? p = .ok (r.nodeAt p) ∧
      tree (r.nodeAt p) scope = counted (visitEach scope (covered.map r.nodeAt)) ∧
      ∃ summary events,
        ((tree (r.nodeAt p) scope).run.run s).1 = .ok summary ∧
        ((tree (r.nodeAt p) scope).run.run s).2.trail = s.trail ++ events ∧
        summary.nodesVisited = covered.length ∧
        events.map AuditEvent.offered? = offers.map some ∧ offers.Nodup := by
  intro covered offers
  have h := Repository.isSound_of_reachable hr
  have hmem (q : String) : q ∈ covered ↔
      q ∈ r.nodes.keys ∧ (q = p ∨ p = "/" ∨ (p ++ "/").toList <+: q.toList) ∧
        (0 ≤ scope.maxDepth → (depth q : Int) ≤ depth p + scope.maxDepth) := by
    have hd := hs.maxDepth
    rw [Repository.mem_covered, Path.leadsTo, Bool.or_eq_true, Bool.or_eq_true,
      decide_eq_true_eq, decide_eq_true_eq, List.isPrefixOf_iff_prefix, or_assoc]
    refine and_congr_right fun _ => and_congr_right fun _ => ?_
    constructor
    · rintro (hd | hd) hn
      · omega
      · exact hd
    · intro hn
      by_cases hm : scope.maxDepth = -1
      · exact .inl hm
      · exact .inr (hn (by omega))
  refine ⟨hmem, Repository.pairwise_covered h _, ?_, Repository.node?_eq hf hp,
    tree_eq_visits h hf hp hs, ?_⟩
  · intro hroot more hmore hslash hin
    obtain ⟨-, heq | heq | ⟨rest, heq⟩, -⟩ := (hmem _).mp hin
    · exact hmore (by simpa using heq)
    · exact hroot heq
    · -- Behind the path stands a slash, which the name does not hold.
      rw [String.toList_append, String.toList_append, List.append_assoc] at heq
      have hlead : '/' :: rest = more.toList := List.append_cancel_left heq
      exact hslash (hlead ▸ List.mem_cons_self)
  · obtain ⟨report, hoffers, hrun⟩ := tree_run_accepted h hf hp hs s ha
    refine ⟨report.counts, report.events, ?_, ?_, hoffers.nodes, hoffers.values, ?_⟩
    · rw [hrun]
    · rw [hrun]
      rfl
    · exact Repository.nodup_offers h (fun q hq => ((hmem q).mp hq).1)
        (Repository.nodup_covered scope.maxDepth)

/-- A page, and a node beside its parent whose name goes on from that of the parent. -/
def siblings : Repository := (Repository.empty.addNode "/content/page").addNode "/content2"

/-- A dig of the parent leaves the node beside it out, and visits two nodes. -/
theorem tree_run_covers_siblings :
    siblings.Reachable ∧ "/content" ∈ siblings.nodes.keys ∧ "/content2" ∈ siblings.nodes.keys ∧
      (DigScope.binaries 1).IsValid ∧
      "/content" ++ "2" ∉ siblings.covered "/content" 1 ∧
      ∃ summary : DigSummary, summary.nodesVisited = 2 ∧
        ((tree (siblings.nodeAt "/content") (.binaries 1)).run.run ⟨.empty, [], {}⟩).1 =
          .ok summary := by
  have hr : siblings.Reachable := (Repository.Reachable.empty.addNode _).addNode _
  have hp : "/content" ∈ siblings.nodes.keys := by decide +kernel
  have hs : (DigScope.binaries 1).IsValid := ⟨by decide, by decide, by decide⟩
  have hcovered : siblings.covered "/content" 1 = ["/content", "/content/page"] := by decide +kernel
  obtain ⟨-, -, hsibling, -, -, summary, -, hrun, -, hcount, -⟩ :=
    tree_run_covers hr rfl hp hs ⟨.empty, [], {}⟩ rfl
  have hcount : summary.nodesVisited = 2 := by
    rw [hcount]
    exact congrArg List.length hcovered
  exact ⟨hr, hp, by decide +kernel, hs, hsibling (by decide) "2" (by decide) (by decide), summary,
    hcount, hrun⟩

end Dig

end Sentinel
