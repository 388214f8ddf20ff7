import Sentinel.Path
import Sentinel.Proofs.Text.Utf8
/-!
# The order of paths

Paths are ordered by their segments, and segments by their bytes. This is the order of a walk through
a tree; the order of the texts is another one, since some characters stand before the slash.

1. `before_of_extends`, `before_of_branch`: a path stands before those below it, and what lies below
   a path stands before what lies below a later sibling.
2. `leadsTo_iff`: of normalized paths, one lies below the other if its segments begin with those
   of the other.
-/

namespace Sentinel

namespace Path

/-- The segments of a path, each as its bytes. -/
def byteSegments (p : String) : List Bytes := (segments p).map fun s => utf8 (String.ofList s)

/-- One path stands before another: so do their segments, as words do in a dictionary. -/
def Before (p q : String) : Prop := byteSegments p < byteSegments q

/-- Whether a path is the second one or lies above it: the second one is the first, or goes on from it
behind a slash, or the first is the root. -/
def leadsTo (p q : String) : Bool := q = p || p = "/" || (p ++ "/").toList.isPrefixOf q.toList

theorem ofSegments_segments {p : String} (hp : IsNormalized p) : ofSegments (segments p) = p := by
  obtain ⟨ss, hss, rfl⟩ := hp
  rw [segments_ofSegments hss]

theorem segments_inj {p q : String} (hp : IsNormalized p) (hq : IsNormalized q)
    (h : segments p = segments q) : p = q := by
  rw [← ofSegments_segments hp, h, ofSegments_segments hq]

theorem byteSegments_inj {p q : String} (hp : IsNormalized p) (hq : IsNormalized q)
    (h : byteSegments p = byteSegments q) : p = q := by
  refine segments_inj hp hq (List.map_inj_right ?_ |>.mp h)
  intro s t hst
  exact String.ofList_injective (utf8_inj hst)

/-- A path stands before every path below it. -/
theorem before_of_extends {p q : String} {s : List Char} {ss : List (List Char)}
    (h : segments q = segments p ++ s :: ss) : Before p q := by
  rw [Before, byteSegments, byteSegments, h, List.map_append, List.map_cons]
  have hlt : ∀ (b : Bytes) (bs : List Bytes), [] < b :: bs := fun b bs => List.Lex.nil
  conv => lhs; rw [← List.append_nil (List.map _ (segments p))]
  exact List.append_left_lt (hlt _ _)

/-- What lies below a name stands before what lies below a later name at the same place. -/
theorem before_of_branch {p q : String} {lead ss ts : List (List Char)} {s t : List Char}
    (hp : segments p = lead ++ s :: ss) (hq : segments q = lead ++ t :: ts)
    (h : String.ofList s < String.ofList t) : Before p q := by
  rw [Before, byteSegments, byteSegments, hp, hq, List.map_append, List.map_append, List.map_cons,
    List.map_cons]
  exact (FirstLess.intro (utf8_lt h) _ _ _).lt

theorem lt_of_child_lt {lead : List (List Char)} {s t : List Char}
    (h : ofSegments (lead ++ [s]) < ofSegments (lead ++ [t])) : String.ofList s < String.ofList t := by
  -- The paths are the same up to the slash before the names.
  have cancel (xs : List Char) {ys zs : List Char} (h : xs ++ ys < xs ++ zs) : ys < zs := by
    induction xs with
    | nil => exact h
    | cons x xs ih => exact ih (List.cons_lt_cons_self.mp h)
  rw [String.lt_iff, toList_ofSegments (by simp), toList_ofSegments (by simp), List.flatMap_append,
    List.flatMap_append, List.flatMap_singleton, List.flatMap_singleton] at h
  rw [String.lt_iff, String.toList_ofList, String.toList_ofList]
  exact List.cons_lt_cons_self.mp (cancel _ h)

theorem segments_prefix_of_append {p q : String} {rest : List Char}
    (h : q.toList = p.toList ++ '/' :: rest) : segments p <+: segments q := by
  rw [segments, segments, h, Text.pieces_append, List.filter_append]
  exact List.prefix_append _ _

theorem leadsTo_iff {p q : String} (hp : IsNormalized p) (hq : IsNormalized q) :
    leadsTo p q = true ↔ segments p <+: segments q := by
  simp only [leadsTo, Bool.or_eq_true, decide_eq_true_eq, List.isPrefixOf_iff_prefix]
  constructor
  · rintro ((rfl | rfl) | ⟨rest, h⟩)
    · exact List.prefix_refl _
    · exact List.nil_prefix
    · have hq : q.toList = p.toList ++ '/' :: rest := by
        rw [← h, String.toList_append, List.append_assoc]
        rfl
      exact segments_prefix_of_append hq
  · obtain ⟨ss, hss, rfl⟩ := hp
    obtain ⟨ts, hts, rfl⟩ := hq
    rw [segments_ofSegments hss, segments_ofSegments hts]
    rintro ⟨us, rfl⟩
    rcases us with _ | ⟨u, us⟩
    · exact .inl (.inl (by rw [List.append_nil]))
    · rcases ss with _ | ⟨s, ss⟩
      · exact .inl (.inr rfl)
      · refine .inr ⟨u ++ us.flatMap ('/' :: ·), ?_⟩
        rw [String.toList_append, toList_ofSegments (by simp), toList_ofSegments (by simp)]
        simp

end Path

end Sentinel
