/-!
# Splitting at a separator

1. `pieces_append`: the pieces of two texts joined by a separator are the pieces of both.
2. `pieces_flatMap`: texts written each behind a separator are found again as pieces.
3. `splitLast_eq_some_iff`: splitting at the last separator leaves none behind it.
4. `dropLead?_eq_some_iff`: a lead is dropped exactly where the text begins with it.
-/

namespace Sentinel.Text

/-- The pieces between separators: one more than there are separators. -/
def pieces (sep : Char) : List Char → List (List Char)
  | [] => [[]]
  | c :: cs =>
    if c = sep then [] :: pieces sep cs
    else match pieces sep cs with
      | [] => [[c]]
      | p :: ps => (c :: p) :: ps

/-- What stands before and after the last separator. -/
def splitLast (sep : Char) : List Char → Option (List Char × List Char)
  | [] => none
  | c :: cs =>
    match splitLast sep cs with
    | some (before, after) => some (c :: before, after)
    | none => if c = sep then some ([], cs) else none

/-- The rest of a text that begins with the given characters. -/
def dropLead? : List Char → List Char → Option (List Char)
  | [], cs => some cs
  | l :: ls, c :: cs => if l = c then dropLead? ls cs else none
  | _ :: _, [] => none

theorem pieces_ne_nil (sep : Char) (cs : List Char) : pieces sep cs ≠ [] := by
  cases cs with
  | nil => simp [pieces]
  | cons c cs =>
    simp only [pieces]
    split
    · simp
    · split <;> simp

theorem pieces_append (sep : Char) (xs ys : List Char) :
    pieces sep (xs ++ sep :: ys) = pieces sep xs ++ pieces sep ys := by
  induction xs with
  | nil => simp [pieces]
  | cons x xs ih =>
    by_cases h : x = sep
    · simp [pieces, h, ih]
    · simp only [List.cons_append, pieces, h, if_false, ih]
      cases hp : pieces sep xs with
      | nil => exact absurd hp (pieces_ne_nil sep xs)
      | cons p ps => simp

theorem pieces_of_not_mem {sep : Char} {cs : List Char} (h : sep ∉ cs) : pieces sep cs = [cs] := by
  induction cs with
  | nil => rfl
  | cons c cs ih =>
    simp only [List.mem_cons, not_or] at h
    simp [pieces, Ne.symm h.1, ih h.2]

theorem not_mem_of_mem_pieces {sep : Char} {cs p : List Char} (h : p ∈ pieces sep cs) : sep ∉ p := by
  induction cs generalizing p with
  | nil =>
    rw [pieces, List.mem_singleton] at h
    rw [h]
    exact List.not_mem_nil
  | cons c cs ih =>
    rw [pieces] at h
    split at h
    · rcases List.mem_cons.mp h with rfl | h
      · exact List.not_mem_nil
      · exact ih h
    · next hc =>
      obtain ⟨q, qs, hq⟩ := List.exists_cons_of_ne_nil (pieces_ne_nil sep cs)
      rw [hq] at h ih
      rcases List.mem_cons.mp h with rfl | h
      · have hmem := ih List.mem_cons_self
        intro hsep
        rcases List.mem_cons.mp hsep with rfl | hsep
        · exact hc rfl
        · exact hmem hsep
      · exact ih (List.mem_cons_of_mem q h)

theorem pieces_append_of_not_mem {sep : Char} {xs : List Char} (ys : List Char) (h : sep ∉ xs) :
    pieces sep (xs ++ ys) = (xs ++ (pieces sep ys).headD []) :: (pieces sep ys).tail := by
  induction xs with
  | nil =>
    obtain ⟨p, ps, hp⟩ := List.exists_cons_of_ne_nil (pieces_ne_nil sep ys)
    rw [List.nil_append, hp]
    rfl
  | cons x xs ih =>
    rw [List.mem_cons, not_or] at h
    rw [List.cons_append, pieces, if_neg (Ne.symm h.1), ih h.2]
    rfl

theorem pieces_flatMap {sep : Char} {ss : List (List Char)} (h : ∀ s ∈ ss, sep ∉ s) :
    pieces sep (ss.flatMap (sep :: ·)) = [] :: ss := by
  induction ss with
  | nil => rfl
  | cons s ss ih =>
    have hs := h s List.mem_cons_self
    have hss := ih fun t ht => h t (List.mem_cons_of_mem s ht)
    rw [List.flatMap_cons, List.cons_append, pieces, if_pos rfl, pieces_append_of_not_mem _ hs, hss]
    simp

theorem splitLast_append {sep : Char} (xs : List Char) {ys : List Char} (h : sep ∉ ys) :
    splitLast sep (xs ++ sep :: ys) = some (xs, ys) := by
  have hnone : ∀ ys : List Char, sep ∉ ys → splitLast sep ys = none := by
    intro ys
    induction ys with
    | nil => intro _; rfl
    | cons y ys ih =>
      intro h
      simp only [List.mem_cons, not_or] at h
      simp [splitLast, ih h.2, Ne.symm h.1]
  induction xs with
  | nil => simp [splitLast, hnone ys h]
  | cons x xs ih => simp [splitLast, ih]

theorem splitLast_eq_some_iff {sep : Char} {cs xs ys : List Char} :
    splitLast sep cs = some (xs, ys) ↔ cs = xs ++ sep :: ys ∧ sep ∉ ys := by
  constructor
  · induction cs generalizing xs with
    | nil => simp [splitLast]
    | cons c cs ih =>
      intro h
      simp only [splitLast] at h
      split at h
      · rename_i before after hs
        simp only [Option.some.injEq, Prod.mk.injEq] at h
        obtain ⟨rfl, rfl⟩ := h
        obtain ⟨hcs, hmem⟩ := ih hs
        exact ⟨by simp [hcs], hmem⟩
      · rename_i hs
        split at h
        · rename_i hc
          simp only [Option.some.injEq, Prod.mk.injEq] at h
          obtain ⟨rfl, rfl⟩ := h
          refine ⟨by simp [hc], ?_⟩
          intro hmem
          clear ih hc
          induction cs with
          | nil => simp at hmem
          | cons d ds ih =>
            simp only [splitLast] at hs
            split at hs
            · simp at hs
            · rename_i hd
              split at hs
              · simp at hs
              · rename_i hne
                simp only [List.mem_cons] at hmem
                rcases hmem with rfl | hmem
                · exact hne rfl
                · exact ih hd hmem
        · simp at h
  · rintro ⟨rfl, h⟩
    exact splitLast_append xs h

theorem dropLead?_eq_some_iff {ls cs rest : List Char} :
    dropLead? ls cs = some rest ↔ cs = ls ++ rest := by
  induction ls generalizing cs with
  | nil => simp [dropLead?, eq_comm]
  | cons l ls ih =>
    cases cs with
    | nil => simp [dropLead?]
    | cons c cs =>
      by_cases h : l = c
      · simp [dropLead?, h, ih]
      · simp [dropLead?, h, Ne.symm h]

end Sentinel.Text
