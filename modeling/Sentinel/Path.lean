import Sentinel.Text.Split
/-!
# Paths

Slash-separated paths of nodes and properties. A path is any text; a normalized path is the root or
a row of segments, each behind a slash.

1. `segments_ofSegments`: a normalized path has the segments that it was made of.
2. `split?_child`, `depth_child`: the path of a child is split into the parent and the name, and
   has one segment more.
3. `exists_split?_of_isNormalized`: a normalized path other than the root is the path of a child.

Correspondence (operation of the component ↔ definition):
  `path_depth`                              ↔ `Path.depth`
  `split_property_path`, `child_path`       ↔ `Path.split?`, `Path.child`
  `parent_of`                               ↔ `Path.parent?`
  the path and its parents in `ensure_node` ↔ `Path.ancestry`
-/

namespace Sentinel

namespace Path

/-- The segments of a path: the pieces between slashes that are not empty. -/
def segments (p : String) : List (List Char) := (Text.pieces '/' p.toList).filter (!·.isEmpty)

def depth (p : String) : Nat := (segments p).length

/-- The node path and the name of a property path; there is none where the name is empty or no
slash stands in the path. The parent of a name right below the root is the root. -/
def split? (p : String) : Option (String × String) :=
  match Text.splitLast '/' p.toList with
  | none => none
  | some (parent, name) =>
    if name.isEmpty then none
    else some (if parent.isEmpty then "/" else String.ofList parent, String.ofList name)

/-- The path of a child: the name behind the parent's path and one slash. -/
def child (parent name : String) : String :=
  if parent.toList.getLast? = some '/' then parent ++ name else parent ++ "/" ++ name

/-- The node that a node path is listed under; the root is listed nowhere. -/
def parent? (p : String) : Option String :=
  if p = "/" then none else (split? p).map (·.1)

/-- The path made of segments. -/
def ofSegments (ss : List (List Char)) : String :=
  if ss.isEmpty then "/" else String.ofList (ss.flatMap ('/' :: ·))

/-- A text that may stand between two slashes. -/
def IsSegment (s : List Char) : Prop := s ≠ [] ∧ '/' ∉ s

/-- The root, or segments each behind a slash. -/
def IsNormalized (p : String) : Prop :=
  ∃ ss : List (List Char), (∀ s ∈ ss, IsSegment s) ∧ p = ofSegments ss

/-- The normalized paths from the root down to the node that a path leads to. -/
def ancestry (p : String) : List String :=
  let ss := segments p
  (List.range (ss.length + 1)).map fun n => ofSegments (ss.take n)

theorem isSegment_of_mem_segments {p : String} {s : List Char} (h : s ∈ segments p) : IsSegment s := by
  obtain ⟨hmem, hne⟩ := List.mem_filter.mp h
  exact ⟨by simpa using hne, Text.not_mem_of_mem_pieces hmem⟩

theorem isSegment_of_split? {p parent name : String} (h : split? p = some (parent, name)) :
    IsSegment name.toList := by
  rw [split?] at h
  split at h
  · cases h
  · next parent' name' hs =>
    split at h
    · cases h
    · next hne =>
      obtain ⟨-, rfl⟩ := Prod.mk.inj (Option.some.inj h)
      rw [String.toList_ofList]
      exact ⟨by simpa using hne, (Text.splitLast_eq_some_iff.mp hs).2⟩

theorem toList_ofSegments {ss : List (List Char)} (h : ss ≠ []) :
    (ofSegments ss).toList = ss.flatMap ('/' :: ·) := by
  rw [ofSegments, if_neg (by simp [h]), String.toList_ofList]

theorem segments_ofSegments {ss : List (List Char)} (h : ∀ s ∈ ss, IsSegment s) :
    segments (ofSegments ss) = ss := by
  by_cases hn : ss = []
  · rw [hn]
    rfl
  · rw [segments, toList_ofSegments hn, Text.pieces_flatMap fun s hs => (h s hs).2]
    rw [List.filter_cons_of_neg (by simp)]
    apply List.filter_eq_self.mpr
    intro s hs
    simpa using (h s hs).1

theorem getLast?_flatMap {ss : List (List Char)} (h : ∀ s ∈ ss, IsSegment s) :
    (ss.flatMap ('/' :: ·)).getLast? ≠ some '/' := by
  intro hl
  rcases List.eq_nil_or_concat ss with rfl | ⟨ts, s, rfl⟩
  · simp at hl
  · rw [List.concat_eq_append] at h hl
    have hs := h s (by simp)
    rw [List.flatMap_append, List.flatMap_singleton, List.getLast?_append] at hl
    obtain ⟨c, hc⟩ := Option.ne_none_iff_exists'.mp (mt List.getLast?_eq_none_iff.mp hs.1)
    rw [List.getLast?_cons, hc] at hl
    simp only [Option.getD_some, Option.some_or, Option.some.injEq] at hl
    exact hs.2 (hl ▸ List.mem_of_getLast? hc)

theorem child_ofSegments {ss : List (List Char)} (h : ∀ s ∈ ss, IsSegment s) (name : String) :
    child (ofSegments ss) name = ofSegments (ss ++ [name.toList]) := by
  apply String.toList_injective
  rw [toList_ofSegments (by simp), List.flatMap_append, List.flatMap_singleton]
  by_cases hn : ss = []
  · subst hn
    rw [child, if_pos (by rfl), String.toList_append]
    rfl
  · rw [child, toList_ofSegments hn, if_neg (getLast?_flatMap h)]
    rw [String.toList_append, String.toList_append, toList_ofSegments hn]
    simp

theorem split?_ofSegments (ss : List (List Char)) {name : List Char} (h : IsSegment name) :
    split? (ofSegments (ss ++ [name])) = some (ofSegments ss, String.ofList name) := by
  have hs : Text.splitLast '/' (ofSegments (ss ++ [name])).toList =
      some (ss.flatMap ('/' :: ·), name) := by
    rw [toList_ofSegments (by simp), List.flatMap_append, List.flatMap_singleton]
    exact Text.splitLast_append _ h.2
  have hn : name.isEmpty = false := by simpa using h.1
  rw [split?, hs]
  simp only [hn, Bool.false_eq_true, if_false]
  cases ss <;> rfl

theorem isNormalized_child {p name : String} (hp : IsNormalized p) (hn : IsSegment name.toList) :
    IsNormalized (child p name) := by
  obtain ⟨ss, hss, rfl⟩ := hp
  refine ⟨ss ++ [name.toList], ?_, child_ofSegments hss name⟩
  intro s hs
  rcases List.mem_append.mp hs with hs | hs
  · exact hss s hs
  · rw [List.mem_singleton.mp hs]
    exact hn

theorem split?_child {p name : String} (hp : IsNormalized p) (hn : IsSegment name.toList) :
    split? (child p name) = some (p, name) := by
  obtain ⟨ss, hss, rfl⟩ := hp
  rw [child_ofSegments hss, split?_ofSegments ss hn, String.ofList_toList]

theorem depth_child {p name : String} (hp : IsNormalized p) (hn : IsSegment name.toList) :
    depth (child p name) = depth p + 1 := by
  obtain ⟨ss, hss, rfl⟩ := hp
  have hall : ∀ s ∈ ss ++ [name.toList], IsSegment s := by
    intro s hs
    rcases List.mem_append.mp hs with hs | hs
    · exact hss s hs
    · rw [List.mem_singleton.mp hs]
      exact hn
  rw [depth, depth, child_ofSegments hss, segments_ofSegments hall, segments_ofSegments hss]
  simp

theorem exists_split?_of_isNormalized {p : String} (hp : IsNormalized p) (hne : p ≠ "/") :
    ∃ parent name, split? p = some (parent, name) ∧ IsNormalized parent ∧ IsSegment name.toList ∧
      child parent name = p := by
  obtain ⟨ss, hss, rfl⟩ := hp
  rcases List.eq_nil_or_concat ss with rfl | ⟨ts, s, rfl⟩
  · exact absurd rfl hne
  · rw [List.concat_eq_append] at hss hne ⊢
    have hs := hss s (by simp)
    have hts : ∀ t ∈ ts, IsSegment t := fun t ht => hss t (List.mem_append_left _ ht)
    refine ⟨ofSegments ts, String.ofList s, split?_ofSegments ts hs, ⟨ts, hts, rfl⟩, ?_, ?_⟩
    · rwa [String.toList_ofList]
    · rw [child_ofSegments hts, String.toList_ofList]

end Path

end Sentinel
