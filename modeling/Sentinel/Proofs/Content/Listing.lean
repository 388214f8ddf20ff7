import Sentinel.Proofs.Content.Places
/-!
# Listings of children

Whatever texts a repository is given as paths, its nodes make up one tree: each node but the root is
listed below the node right above it, once, and below no other. A view of a node keeps the path and the
depth with which it was made, while the repository may change; the depth is that of the path all the
same.

1. `Path.above_eq_iff`: a node lies right above another where the other has one segment more.
2. `count_childPaths`: how often a path is listed below a node.
3. `reachable_of_viewed`, `depth_of_viewed`: views are held of reachable repositories, and their depths
   are those of their paths.
4. `tree_of_reachable`: the shape of every reachable repository.
-/

namespace Sentinel

namespace Path

/-- The node right above another: the path without its last segment. -/
def above (p : String) : String := ofSegments (segments p).dropLast

theorem segments_above (p : String) : segments (above p) = (segments p).dropLast :=
  segments_ofSegments fun _ hs => isSegment_of_mem_segments (List.dropLast_subset _ hs)

theorem eq_root_iff {p : String} (hp : IsNormalized p) : p = "/" ↔ segments p = [] := by
  constructor
  · rintro rfl
    rfl
  · intro h
    rw [← ofSegments_segments hp, h]
    rfl

theorem above_eq_iff {p q : String} (hp : IsNormalized p) (hq : IsNormalized q) :
    q ≠ "/" ∧ p = above q ↔ ∃ s, IsSegment s ∧ segments q = segments p ++ [s] := by
  rw [Ne, eq_root_iff hq]
  constructor
  · rintro ⟨hne, rfl⟩
    rw [segments_above]
    exact ⟨_, isSegment_of_mem_segments (List.getLast_mem hne), (List.dropLast_append_getLast hne).symm⟩
  · rintro ⟨s, -, hseg⟩
    refine ⟨by rw [hseg]; simp, segments_inj hp ⟨_, ?_, rfl⟩ ?_⟩
    · intro t ht
      exact isSegment_of_mem_segments (List.dropLast_subset _ ht)
    · rw [segments_above, hseg, List.dropLast_concat]

theorem above_mem_ancestry (p : String) : above p ∈ ancestry p :=
  mem_ancestry.mpr ⟨_, List.dropLast_prefix _, rfl⟩

end Path

namespace Repository

variable {r r' : Repository} {p : String} {d : Nat}

theorem IsSound.mem_of_mem_ancestry (h : r.IsSound) (hp : p ∈ r.nodes.keys) {q : String}
    (hq : q ∈ Path.ancestry p) : q ∈ r.nodes.keys := by
  obtain ⟨ss, hss, rfl⟩ := Path.mem_ancestry.mp hq
  exact h.ancestors p hp ss hss

theorem nodup_childPaths (r : Repository) (p : String) : (r.childPaths p).Nodup :=
  (r.nodes.sorted_keys.imp fun hab => Std.ne_of_lt hab).filter _

/-- A path is listed below a node, and then once, where it is that of a node with the first right above
it. -/
theorem count_childPaths (h : r.IsSound) (hp : p ∈ r.nodes.keys) (q : String) :
    (r.childPaths p).count q = if q ∈ r.nodes.keys ∧ q ≠ "/" ∧ p = Path.above q then 1 else 0 := by
  rw [(nodup_childPaths r p).count]
  refine if_congr ?_ rfl rfl
  rw [mem_childPaths h (h.normalized p hp)]
  exact and_congr_right fun hq => (Path.above_eq_iff (h.normalized p hp) (h.normalized q hq)).symm

theorem pairwise_childPaths (r : Repository) (p : String) :
    (r.childPaths p).Pairwise fun a b => utf8 a < utf8 b :=
  (r.nodes.sorted_keys.filter _).imp utf8_lt

theorem path_view (r : Repository) (p : String) (d : Nat) : (r.view p d).path = p := by
  rw [view, ContentNode.path]

theorem depth_view (r : Repository) (p : String) (d : Nat) : (r.view p d).depth = d := by
  rw [view, ContentNode.depth]

theorem children_view (hp : p ∉ r.failing) (d : Nat) :
    (r.view p d).children = .ok ((r.childPaths p).map (r.view · (d + 1))) := by
  have haccess : r.checkAccess p = .ok () := by
    rw [checkAccess, if_neg (by simpa using hp)]
  rw [view_of_access haccess, ContentNode.children]

theorem not_mem_failing_of_children {ns : List ContentNode} (h : (r.view p d).children = .ok ns) :
    p ∉ r.failing := by
  intro hp
  have haccess : r.checkAccess p = .error (.accessFailed p "access denied") := by
    rw [checkAccess, if_pos (by simpa using hp)]
  rw [view, haccess] at h
  cases h

/-- What one public operation does to a repository. -/
inductive Follows : Repository → Repository → Prop where
  | addNode (r : Repository) (path : String) : Follows r (r.addNode path)
  | setProperty (r : Repository) (path : String) (s : StoredProperty)
      (counted : s.values.length < UInt64.size) : Follows r (r.setProperty path s)
  | removeProperty (r : Repository) (path : String) : Follows r (r.removeProperty path).2
  | failOn (r : Repository) (path : String) : Follows r (r.failOn path)
  | setAvailable (r : Repository) (available : Bool) : Follows r (r.setAvailable available)

/-- The views of nodes that one can hold of a repository, each with its path and its depth: what a
look-up has found, what the children of a view were, and what was held before an operation. -/
inductive Viewed : Repository → String → Nat → Prop where
  | lookUp {r : Repository} {p : String} {n : ContentNode} (h : r.Reachable) (hn : r.node? p = .ok n) :
      Viewed r n.path n.depth
  | child {r : Repository} {p : String} {d : Nat} {ns : List ContentNode} {n : ContentNode}
      (h : Viewed r p d) (hns : (r.view p d).children = .ok ns) (hn : n ∈ ns) : Viewed r n.path n.depth
  | later {r r' : Repository} {p : String} {d : Nat} (h : Viewed r p d) (hr : Follows r r') : Viewed r' p d

theorem Reachable.next (h : r.Reachable) (hr : Follows r r') : r'.Reachable := by
  cases hr with
  | addNode path => exact h.addNode path
  | setProperty path s counted => exact h.setProperty path s counted
  | removeProperty path => exact h.removeProperty path
  | failOn path => exact h.failOn path
  | setAvailable available => exact h.setAvailable available

theorem reachable_of_viewed (h : Viewed r p d) : r.Reachable := by
  induction h with
  | lookUp h _ => exact h
  | child _ _ _ ih => exact ih
  | later _ hr ih => exact ih.next hr

theorem Follows.keys_subset (hr : Follows r r') (hp : p ∈ r.nodes.keys) : p ∈ r'.nodes.keys := by
  cases hr with
  | addNode path => exact mem_keys_addNode.mpr (.inr hp)
  | setProperty path s _ =>
    cases hplace : Path.split? path with
    | none => rwa [setProperty_of_split?_none hplace]
    | some place => exact (mem_keys_setProperty hplace s p).mpr (.inr hp)
  | removeProperty path => exact (mem_keys_removeProperty r path p).mpr hp
  | failOn path => exact hp
  | setAvailable available => exact hp

theorem node?_eq_ok {n : ContentNode} (h : r.node? p = .ok n) :
    p ∈ r.nodes.keys ∧ n = r.view p (Path.depth p) := by
  obtain ⟨_, -, h⟩ := bind_eq_ok.mp h
  split at h
  · rename_i hp
    exact ⟨KeyMap.contains_iff.mp hp, (Except.ok.inj h).symm⟩
  · cases h

/-- The node of a view is there, and its depth is that of its path. -/
theorem depth_of_viewed (h : Viewed r p d) : p ∈ r.nodes.keys ∧ d = Path.depth p := by
  induction h with
  | lookUp _ hn =>
    obtain ⟨hp, rfl⟩ := node?_eq_ok hn
    rw [path_view, depth_view]
    exact ⟨hp, rfl⟩
  | @child r p d ns n h hns hn ih =>
    have hsound := isSound_of_reachable (reachable_of_viewed h)
    obtain ⟨hp, rfl⟩ := ih
    rw [children_view (not_mem_failing_of_children hns)] at hns
    obtain ⟨q, hq, rfl⟩ := List.mem_map.mp (Except.ok.inj hns ▸ hn)
    rw [path_view, depth_view]
    obtain ⟨hqk, s, -, hseg⟩ := (mem_childPaths hsound (hsound.normalized p hp)).mp hq
    refine ⟨hqk, ?_⟩
    rw [Path.depth, Path.depth, hseg, List.length_append]
    rfl
  | later _ hr ih => exact ⟨hr.keys_subset ih.1, ih.2⟩

/-- The nodes of a reachable repository make up one tree. Their paths are normalized, and what lies above
a node is there. A node lists its children in the order of their bytes: each path of a node with the first
right above it, once, and nothing else. Every view that is held has the depth of its path. -/
theorem tree_of_reachable (h : r.Reachable) :
    "/" ∈ r.nodes.keys ∧
      (∀ p ∈ r.nodes.keys, Path.IsNormalized p ∧ ∀ q ∈ Path.ancestry p, q ∈ r.nodes.keys) ∧
      (∀ p m, r.nodes.get? p = some m → ∀ name ∈ m.keys, Path.IsSegment name.toList) ∧
      (∀ p ∈ r.nodes.keys, p ∉ r.failing → ∀ d, ∃ ns, (r.view p d).children = .ok ns ∧
        (ns.map (·.path)).Pairwise (fun a b => utf8 a < utf8 b) ∧
        ∀ q, (ns.map (·.path)).count q =
          if q ∈ r.nodes.keys ∧ q ≠ "/" ∧ p = Path.above q then 1 else 0) ∧
      (∀ q ∈ r.nodes.keys, Path.above q ∈ r.nodes.keys) ∧
      ∀ p d, Viewed r p d → d = Path.depth p := by
  have hsound := isSound_of_reachable h
  refine ⟨hsound.root, fun p hp => ⟨hsound.normalized p hp, fun q => hsound.mem_of_mem_ancestry hp⟩, ?_, ?_,
    fun q hq => hsound.mem_of_mem_ancestry hq (Path.above_mem_ancestry q),
    fun p d hview => (depth_of_viewed hview).2⟩
  · intro p m hm name hname
    obtain ⟨s, hs⟩ := KeyMap.mem_keys.mp hname
    exact (hsound.properties p m hm _ ((KeyMap.get?_eq_some_iff m).mp hs)).1
  · intro p hp haccess d
    have hpaths : ((r.childPaths p).map (r.view · (d + 1))).map (·.path) = r.childPaths p := by
      rw [List.map_map]
      exact List.map_id'' (path_view r · (d + 1)) _
    refine ⟨_, children_view haccess d, ?_⟩
    rw [hpaths]
    exact ⟨pairwise_childPaths r p, count_childPaths hsound hp⟩

/-- A repository made with paths that lack slashes or have too many. -/
def untidy : Repository :=
  ((Repository.empty.addNode "b//a///c/").setProperty "//a/b/title" ⟨.string, [.text "x"], false⟩).failOn "/a"

theorem reachable_untidy : untidy.Reachable :=
  ((Reachable.empty.addNode _).setProperty _ _ (by decide)).failOn _

theorem tree_of_reachable_untidy :
    untidy.Reachable ∧ Path.IsNormalized "/b/a/c" ∧
      ∃ ns, (untidy.view "/b" 1).children = .ok ns ∧ (ns.map (·.path)).count "/b/a" = 1 ∧
        (ns.map (·.path)).count "/b/a/c" = 0 := by
  obtain ⟨-, hnodes, -, hlisting, -⟩ := tree_of_reachable reachable_untidy
  obtain ⟨ns, hns, -, hcount⟩ := hlisting "/b" (by decide) (by decide) 1
  refine ⟨reachable_untidy, (hnodes "/b/a/c" (by decide)).1, ns, hns, ?_, ?_⟩
  · rw [hcount, if_pos (by decide)]
  · rw [hcount, if_neg (by decide)]

end Repository

end Sentinel
