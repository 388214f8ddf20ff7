import Sentinel.Content.Repository
/-!
# Reachable repositories

The repositories that the public operations lead to, and what all of them have in common.

1. `get?_addNode`: adding a node adds its ancestry, and leaves what is there.
2. `isSound_of_reachable`: in a reachable repository the paths of nodes are normalized, the ancestors
   of a node are nodes, and properties have names that can stand at the end of a path.
-/

namespace Sentinel

namespace Path

theorem mem_ancestry {p q : String} :
    q ∈ ancestry p ↔ ∃ ss, ss <+: segments p ∧ q = ofSegments ss := by
  simp only [ancestry, List.mem_map, List.mem_range]
  constructor
  · rintro ⟨n, -, rfl⟩
    exact ⟨_, List.take_prefix n _, rfl⟩
  · rintro ⟨ss, hss, rfl⟩
    refine ⟨ss.length, ?_, by rw [← List.prefix_iff_eq_take.mp hss]⟩
    have := hss.length_le
    omega

theorem isNormalized_of_mem_ancestry {p q : String} (h : q ∈ ancestry p) : IsNormalized q := by
  obtain ⟨ss, hss, rfl⟩ := mem_ancestry.mp h
  exact ⟨ss, fun s hs => isSegment_of_mem_segments (hss.subset hs), rfl⟩

end Path

namespace Repository

theorem get?_addOne (r : Repository) (p q : String) :
    (r.addOne p).nodes.get? q =
      if q = p then some ((r.nodes.get? q).getD KeyMap.empty) else r.nodes.get? q := by
  rw [addOne]
  split
  · next h =>
    obtain ⟨m, hm⟩ := KeyMap.mem_keys.mp (KeyMap.contains_iff.mp h)
    split
    · next hq => rw [hq, hm, Option.getD_some]
    · rfl
  · next h =>
    show (r.nodes.insert p KeyMap.empty).get? q = _
    rw [KeyMap.get?_insert]
    split
    · next hq =>
      have hn : r.nodes.get? q = none := by
        rw [hq]
        simpa [KeyMap.contains] using h
      rw [hn, Option.getD_none]
    · rfl

theorem get?_foldl_addOne (ps : List String) (r : Repository) (q : String) :
    (ps.foldl addOne r).nodes.get? q =
      if q ∈ ps then some ((r.nodes.get? q).getD KeyMap.empty) else r.nodes.get? q := by
  induction ps generalizing r with
  | nil => rfl
  | cons p ps ih =>
    rw [List.foldl_cons, ih, get?_addOne]
    by_cases hp : q = p
    · simp [hp]
    · simp [hp]

theorem get?_addNode (r : Repository) (p q : String) :
    (r.addNode p).nodes.get? q =
      if q ∈ Path.ancestry p then some ((r.nodes.get? q).getD KeyMap.empty) else r.nodes.get? q :=
  get?_foldl_addOne _ r q

theorem mem_keys_addNode {r : Repository} {p q : String} :
    q ∈ (r.addNode p).nodes.keys ↔ q ∈ Path.ancestry p ∨ q ∈ r.nodes.keys := by
  rw [KeyMap.mem_keys, KeyMap.mem_keys, get?_addNode]
  by_cases h : q ∈ Path.ancestry p <;> simp [h]

/-- The repositories that the public operations lead to. The values of a property are counted by a
machine word, as every list in memory is. -/
inductive Reachable : Repository → Prop where
  | empty : Reachable empty
  | addNode {r : Repository} (h : Reachable r) (path : String) : Reachable (r.addNode path)
  | setProperty {r : Repository} (h : Reachable r) (path : String) (s : StoredProperty)
      (counted : s.values.length < UInt64.size) : Reachable (r.setProperty path s)
  | removeProperty {r : Repository} (h : Reachable r) (path : String) :
      Reachable (r.removeProperty path).2
  | failOn {r : Repository} (h : Reachable r) (path : String) : Reachable (r.failOn path)
  | setAvailable {r : Repository} (h : Reachable r) (available : Bool) :
      Reachable (r.setAvailable available)

/-- What holds of the nodes and properties of every reachable repository. -/
structure IsSound (r : Repository) : Prop where
  normalized : ∀ p ∈ r.nodes.keys, Path.IsNormalized p
  root : "/" ∈ r.nodes.keys
  ancestors : ∀ p ∈ r.nodes.keys, ∀ ss, ss <+: Path.segments p → Path.ofSegments ss ∈ r.nodes.keys
  properties : ∀ p m, r.nodes.get? p = some m → ∀ e ∈ m.entries,
    Path.IsSegment e.1.toList ∧ e.2.values.length < UInt64.size

theorem isSound_empty : IsSound empty := by
  have hkeys : empty.nodes.keys = ["/"] := rfl
  have hget (p : String) (m : KeyMap StoredProperty) (h : empty.nodes.get? p = some m) :
      m = KeyMap.empty := by
    have hm : (p, m) ∈ [("/", KeyMap.empty)] := (KeyMap.get?_eq_some_iff _).mp h
    exact (Prod.mk.inj (List.mem_singleton.mp hm)).2
  refine ⟨?_, by rw [hkeys]; exact List.mem_singleton_self _, ?_, ?_⟩
  · rw [hkeys]
    intro p hp
    rw [List.mem_singleton.mp hp]
    exact ⟨[], by simp, rfl⟩
  · rw [hkeys]
    intro p hp ss hss
    rw [List.mem_singleton.mp hp] at hss
    rw [List.prefix_nil.mp hss]
    exact List.mem_singleton_self _
  · intro p m h e he
    rw [hget p m h] at he
    cases he

theorem isSound_addNode {r : Repository} (h : r.IsSound) (path : String) :
    (r.addNode path).IsSound := by
  have hget (p : String) (m : KeyMap StoredProperty) (hm : (r.addNode path).nodes.get? p = some m) :
      m = KeyMap.empty ∨ r.nodes.get? p = some m := by
    rw [get?_addNode] at hm
    split at hm
    · cases hr : r.nodes.get? p with
      | none =>
        rw [hr] at hm
        exact .inl (Option.some.inj hm).symm
      | some m' =>
        rw [hr] at hm
        exact .inr hm
    · exact .inr hm
  refine ⟨?_, ?_, ?_, ?_⟩
  · intro p hp
    rcases mem_keys_addNode.mp hp with hp | hp
    · exact Path.isNormalized_of_mem_ancestry hp
    · exact h.normalized p hp
  · exact mem_keys_addNode.mpr (.inr h.root)
  · intro p hp ss hss
    rcases mem_keys_addNode.mp hp with hp | hp
    · obtain ⟨ts, hts, rfl⟩ := Path.mem_ancestry.mp hp
      rw [Path.segments_ofSegments fun s hs => Path.isSegment_of_mem_segments (hts.subset hs)] at hss
      exact mem_keys_addNode.mpr (.inl (Path.mem_ancestry.mpr ⟨ss, hss.trans hts, rfl⟩))
    · exact mem_keys_addNode.mpr (.inr (h.ancestors p hp ss hss))
  · intro p m hm e he
    rcases hget p m hm with rfl | hm
    · cases he
    · exact h.properties p m hm e he

theorem mem_keys_insert {r : Repository} {p : String} {m : KeyMap StoredProperty} (hp : p ∈ r.nodes.keys)
    (q : String) : q ∈ (r.nodes.insert p m).keys ↔ q ∈ r.nodes.keys := by
  rw [KeyMap.mem_keys_insert]
  exact or_iff_right_of_imp fun hq => hq ▸ hp

theorem isSound_insert {r : Repository} (h : r.IsSound) {p : String} {m : KeyMap StoredProperty}
    (hp : p ∈ r.nodes.keys)
    (hm : ∀ e ∈ m.entries, Path.IsSegment e.1.toList ∧ e.2.values.length < UInt64.size) :
    IsSound { r with nodes := r.nodes.insert p m } := by
  have hkeys (q : String) : q ∈ (r.nodes.insert p m).keys ↔ q ∈ r.nodes.keys := mem_keys_insert hp q
  have hget (q : String) (n : KeyMap StoredProperty) (hn : (r.nodes.insert p m).get? q = some n) :
      n = m ∨ r.nodes.get? q = some n := by
    rw [KeyMap.get?_insert] at hn
    split at hn
    · exact .inl (Option.some.inj hn).symm
    · exact .inr hn
  refine ⟨?_, (hkeys _).mpr h.root, ?_, ?_⟩
  · intro q hq
    exact h.normalized q ((hkeys q).mp hq)
  · intro q hq ss hss
    exact (hkeys _).mpr (h.ancestors q ((hkeys q).mp hq) ss hss)
  · intro q n hn e he
    rcases hget q n hn with rfl | hn
    · exact hm e he
    · exact h.properties q n hn e he

theorem isSound_setProperty {r : Repository} (h : r.IsSound) (path : String) {s : StoredProperty}
    (hs : s.values.length < UInt64.size) : (r.setProperty path s).IsSound := by
  rw [setProperty]
  cases hp : Path.split? path with
  | none => exact h
  | some pair =>
    obtain ⟨node, name⟩ := pair
    have ha := isSound_addNode h node
    cases hm : (r.addNode node).nodes.get? node with
    | none =>
      simp only [hm]
      exact ha
    | some m =>
      simp only [hm]
      refine isSound_insert ha (KeyMap.mem_keys.mpr ⟨m, hm⟩) ?_
      intro e he
      rcases KeyMap.mem_insertEntry he with rfl | he
      · exact ⟨Path.isSegment_of_split? hp, hs⟩
      · exact ha.properties node m hm e he

theorem isSound_removeProperty {r : Repository} (h : r.IsSound) (path : String) :
    (r.removeProperty path).2.IsSound := by
  rw [removeProperty]
  cases hp : Path.split? path with
  | none => exact h
  | some pair =>
    obtain ⟨node, name⟩ := pair
    cases hm : r.nodes.get? node with
    | none =>
      simp only [hm]
      exact h
    | some m =>
      simp only [hm]
      refine isSound_insert h (KeyMap.mem_keys.mpr ⟨m, hm⟩) ?_
      intro e he
      exact h.properties node m hm e (List.mem_filter.mp he).1

theorem isSound_of_reachable {r : Repository} (h : r.Reachable) : r.IsSound := by
  induction h with
  | empty => exact isSound_empty
  | addNode _ path ih => exact isSound_addNode ih path
  | setProperty _ path s counted ih => exact isSound_setProperty ih path counted
  | removeProperty _ path ih => exact isSound_removeProperty ih path
  -- Neither of the others touches the nodes.
  | failOn _ path ih => exact ⟨ih.normalized, ih.root, ih.ancestors, ih.properties⟩
  | setAvailable _ available ih => exact ⟨ih.normalized, ih.root, ih.ancestors, ih.properties⟩

end Repository

end Sentinel
