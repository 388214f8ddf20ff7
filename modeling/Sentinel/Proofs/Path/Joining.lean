import Sentinel.Path
/-!
# Joining and splitting

A child's path is joined from its parent's path and its name, and split into them again. The root makes
both a special case: its path ends in the slash that joining would add, and it is what splitting gives in
place of an empty parent. On normalized paths the two cancel, so joining and splitting are inverse to each
other, and splitting again and again goes up to the root, one segment at a time.

1. `child_inj_of_isNormalized`: a normalized parent and a name are known from the path that they make.
2. `climb?_ofSegments`: splitting a number of times takes away as many segments, and fails at the root.
3. `split?_inverts_child`: the two are inverse, and how far it is to the root.
-/

namespace Sentinel

namespace Path

/-- The node path that is left when a path is split a number of times. -/
def climb? : Nat → String → Option String
  | 0, p => some p
  | n + 1, p => (split? p).bind fun place => climb? n place.1

theorem child_inj_of_isNormalized {p q x y : String} (hp : IsNormalized p) (hq : IsNormalized q)
    (hx : IsSegment x.toList) (hy : IsSegment y.toList) (h : child p x = child q y) : p = q ∧ x = y := by
  have hsplit : some (p, x) = some (q, y) := by
    calc some (p, x) = split? (child p x) := (split?_child hp hx).symm
      _ = split? (child q y) := by rw [h]
      _ = some (q, y) := split?_child hq hy
  simpa using hsplit

theorem ofSegments_eq_root_iff {ss : List (List Char)} (h : ∀ s ∈ ss, IsSegment s) :
    ofSegments ss = "/" ↔ ss = [] := by
  constructor
  · intro heq
    have hsegments := segments_ofSegments h
    rw [heq] at hsegments
    exact hsegments.symm
  · intro heq
    rw [heq]
    rfl

theorem climb?_ofSegments {ss : List (List Char)} (h : ∀ s ∈ ss, IsSegment s) (n : Nat) :
    climb? n (ofSegments ss) =
      if n ≤ ss.length then some (ofSegments (ss.take (ss.length - n))) else none := by
  -- By induction on the number of splits; the first one takes the last segment.
  induction n generalizing ss with
  | zero => simp [climb?]
  | succ n ih =>
    rcases List.eq_nil_or_concat ss with rfl | ⟨ts, s, rfl⟩
    · -- The root has no name to split off.
      have hroot : split? (ofSegments []) = none := rfl
      simp [climb?, hroot]
    · rw [List.concat_eq_append] at h ⊢
      have hs : IsSegment s := h s (by simp)
      have hts : ∀ t ∈ ts, IsSegment t := fun t ht => h t (List.mem_append_left _ ht)
      have htake : (ts ++ [s]).take (ts.length - n) = ts.take (ts.length - n) :=
        List.take_append_of_le_length (by omega)
      simp only [climb?, split?_ofSegments ts hs, Option.bind_some, ih hts, List.length_append,
        List.length_singleton, Nat.add_le_add_iff_right, Nat.add_sub_add_right, htake]

/-- A normalized path is split down to the root in as many steps as it is deep, and in no other number. -/
theorem climb?_eq_root_iff {p : String} (hp : IsNormalized p) (n : Nat) :
    climb? n p = some "/" ↔ n = depth p := by
  obtain ⟨ss, hss, rfl⟩ := hp
  have hdepth : depth (ofSegments ss) = ss.length := by rw [depth, segments_ofSegments hss]
  have htake : ∀ s ∈ ss.take (ss.length - n), IsSegment s := fun s hs => hss s (List.mem_of_mem_take hs)
  rw [climb?_ofSegments hss, hdepth]
  split
  · next hle =>
    rw [Option.some.injEq, ofSegments_eq_root_iff htake, List.take_eq_nil_iff]
    constructor
    · rintro (hzero | rfl)
      · omega
      · exact Nat.le_zero.mp hle
    · intro heq
      exact .inl (by omega)
  · next hlt =>
    constructor
    · intro h
      cases h
    · intro heq
      omega

/-- Joining and splitting are inverse on normalized paths. What is joined from a normalized path and a name
without slashes is normalized, is split into the two again, and is one deeper; every normalized path but
the root is split into two such parts, which make it when they are joined; so different parts make different
paths; and splitting a normalized path again and again comes to the root after as many steps as the path
is deep, not before, and cannot go on from there. -/
theorem split?_inverts_child :
    (∀ p name : String, IsNormalized p → IsSegment name.toList →
      IsNormalized (child p name) ∧ split? (child p name) = some (p, name) ∧
        depth (child p name) = depth p + 1) ∧
    (∀ q : String, IsNormalized q → q ≠ "/" → ∃ p name, split? q = some (p, name) ∧
      IsNormalized p ∧ IsSegment name.toList ∧ child p name = q) ∧
    (∀ p q x y : String, IsNormalized p → IsNormalized q → IsSegment x.toList → IsSegment y.toList →
      child p x = child q y → p = q ∧ x = y) ∧
    ∀ q : String, IsNormalized q → ∀ n, climb? n q = some "/" ↔ n = depth q := by
  refine ⟨?_, ?_, ?_, ?_⟩
  · intro p name hp hname
    exact ⟨isNormalized_child hp hname, split?_child hp hname, depth_child hp hname⟩
  · intro q hq hne
    exact exists_split?_of_isNormalized hq hne
  · intro p q x y hp hq hx hy h
    exact child_inj_of_isNormalized hp hq hx hy h
  · intro q hq n
    exact climb?_eq_root_iff hq n

/-- A path with a dot and a blank in its segments, right below the root and one deeper. -/
theorem split?_inverts_child_drafts :
    split? (child "/" "a b") = some ("/", "a b") ∧
      (∃ p name, split? "/a b/.x" = some (p, name) ∧ child p name = "/a b/.x") ∧
      climb? 2 "/a b/.x" = some "/" ∧ climb? 1 "/a b/.x" ≠ some "/" := by
  have hroot : IsNormalized "/" := ⟨[], by simp, rfl⟩
  have hname : IsSegment "a b".toList := ⟨by decide, by decide⟩
  have hdeep : IsNormalized "/a b/.x" := by
    refine ⟨["a b".toList, ".x".toList], ?_, rfl⟩
    simp [IsSegment]
  obtain ⟨hjoined, hsplit, -, hclimb⟩ := split?_inverts_child
  obtain ⟨p, name, hsplit, -, -, hchild⟩ := hsplit "/a b/.x" hdeep (by decide)
  refine ⟨(hjoined "/" "a b" hroot hname).2.1, ⟨p, name, hsplit, hchild⟩, ?_, ?_⟩
  · exact (hclimb _ hdeep 2).mpr rfl
  · intro h
    have hone : 1 = depth "/a b/.x" := (hclimb _ hdeep 1).mp h
    exact absurd hone (by decide)

end Path

end Sentinel
