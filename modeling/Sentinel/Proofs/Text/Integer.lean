import Sentinel.Text.Numeral
/-!
# Integers written in texts

Which texts are read as an integer, said of the text alone: blanks, an optional sign, one or more
decimal digits and blanks again. The reader of integers takes these texts and no others, and reads
from each of them the integer that it writes.

1. `numeral?_eq_some_iff`, `signedNumeral?_eq_some_iff`: a reader takes what is a numeral, and nothing
   else.
2. `trimmed_append`: trimming takes the blanks off both ends of what holds none.
3. `signedNumeral?_trim`: a text is read, once it is trimmed, where it writes an integer.
-/

namespace Sentinel.Text

def IsDigits (cs : List Char) : Prop := cs ≠ [] ∧ ∀ c ∈ cs, c.isDigit = true

/-- A numeral with an optional sign, and the integer that it stands for. -/
inductive IsSigned : List Char → Int → Prop where
  | unsigned {ds : List Char} : IsDigits ds → IsSigned ds (value ds)
  | plus {ds : List Char} : IsDigits ds → IsSigned ('+' :: ds) (value ds)
  | minus {ds : List Char} : IsDigits ds → IsSigned ('-' :: ds) (-(value ds : Int))

/-- A text that writes an integer: a numeral with an optional sign, and blanks around it. -/
def Writes (s : String) (i : Int) : Prop :=
  ∃ before numeral after, s.toList = before ++ numeral ++ after ∧ (∀ c ∈ before, isBlank c = true) ∧
    IsSigned numeral i ∧ ∀ c ∈ after, isBlank c = true

theorem numeral?_eq_some_iff {cs : List Char} {n : Nat} :
    numeral? cs = some n ↔ IsDigits cs ∧ value cs = n := by
  rw [numeral?, IsDigits, ← List.all_eq_true]
  cases cs with
  | nil => simp
  | cons c cs =>
    cases h : (c :: cs).all Char.isDigit <;> simp

theorem isDigits_cons_ne {c : Char} {cs : List Char} (h : IsDigits (c :: cs)) : c ≠ '-' ∧ c ≠ '+' := by
  have hc : c.isDigit = true := h.2 c List.mem_cons_self
  constructor
  · rintro rfl
    exact absurd hc (by decide)
  · rintro rfl
    exact absurd hc (by decide)

private theorem map_numeral?_eq_some_iff {f : Int → Int} {cs : List Char} {i : Int} :
    (Option.map f do let n ← numeral? cs; pure (n : Int)) = some i ↔ IsDigits cs ∧ f (value cs) = i := by
  cases h : numeral? cs with
  | none =>
    constructor
    · intro hn
      cases hn
    · rintro ⟨hds, -⟩
      rw [numeral?_eq_some_iff.mpr ⟨hds, rfl⟩] at h
      cases h
  | some n =>
    obtain ⟨hds, rfl⟩ := numeral?_eq_some_iff.mp h
    constructor
    · intro hn
      exact ⟨hds, Option.some.inj hn⟩
    · rintro ⟨-, rfl⟩
      rfl

theorem signedNumeral?_eq_some_iff {cs : List Char} {i : Int} :
    signedNumeral? cs = some i ↔ IsSigned cs i := by
  constructor
  · intro h
    unfold signedNumeral? at h
    split at h
    all_goals obtain ⟨hds, rfl⟩ := map_numeral?_eq_some_iff.mp h
    · exact .minus hds
    · exact .plus hds
    · exact .unsigned hds
  · intro h
    cases h with
    | plus hds => exact map_numeral?_eq_some_iff.mpr ⟨hds, rfl⟩
    | minus hds => exact map_numeral?_eq_some_iff.mpr ⟨hds, rfl⟩
    | unsigned hds =>
      -- a digit is no sign, so the numeral is not taken for a signed one
      unfold signedNumeral?
      split
      · exact absurd rfl (isDigits_cons_ne hds).1
      · exact absurd rfl (isDigits_cons_ne hds).2
      · exact map_numeral?_eq_some_iff.mpr ⟨hds, rfl⟩

theorem isBlank_of_isDigit {c : Char} (h : c.isDigit = true) : isBlank c = false := by
  have hlo : 48 ≤ c.toNat := by
    have := (Bool.and_eq_true_iff.mp h).1
    exact UInt32.le_iff_toNat_le.mp (of_decide_eq_true this)
  have hhi : c.toNat ≤ 57 := by
    have := (Bool.and_eq_true_iff.mp h).2
    exact UInt32.le_iff_toNat_le.mp (of_decide_eq_true this)
  simp only [isBlank, Bool.or_eq_false_iff, Bool.and_eq_false_iff, decide_eq_false_iff_not,
    beq_eq_false_iff_ne]
  omega

theorem IsSigned.isBlank_eq_false {cs : List Char} {i : Int} (h : IsSigned cs i) :
    ∀ c ∈ cs, isBlank c = false := by
  cases h with
  | unsigned hds => exact fun c hc => isBlank_of_isDigit (hds.2 c hc)
  | plus hds =>
    rw [List.forall_mem_cons]
    exact ⟨by decide, fun c hc => isBlank_of_isDigit (hds.2 c hc)⟩
  | minus hds =>
    rw [List.forall_mem_cons]
    exact ⟨by decide, fun c hc => isBlank_of_isDigit (hds.2 c hc)⟩

private theorem dropWhile_isBlank_append {before core after : List Char}
    (hbefore : ∀ c ∈ before, isBlank c = true) (hcore : ∀ c ∈ core, isBlank c = false) (hne : core ≠ []) :
    (before ++ (core ++ after)).dropWhile isBlank = core ++ after := by
  rw [List.dropWhile_append_of_pos hbefore]
  obtain ⟨c, cs, rfl⟩ := List.exists_cons_of_ne_nil hne
  rw [List.cons_append, List.dropWhile_cons_of_neg (by rw [hcore c List.mem_cons_self]; decide)]

theorem trimmed_append {before core after : List Char} (hbefore : ∀ c ∈ before, isBlank c = true)
    (hcore : ∀ c ∈ core, isBlank c = false) (hafter : ∀ c ∈ after, isBlank c = true) (hne : core ≠ []) :
    trimmed (before ++ core ++ after) = core := by
  have hback : (after.reverse ++ (core.reverse ++ [])).dropWhile isBlank = core.reverse ++ [] :=
    dropWhile_isBlank_append (fun c hc => hafter c (List.mem_reverse.mp hc))
      (fun c hc => hcore c (List.mem_reverse.mp hc)) (List.reverse_ne_nil_iff.mpr hne)
  rw [List.append_nil] at hback
  rw [trimmed, List.append_assoc, dropWhile_isBlank_append hbefore hcore hne, List.reverse_append, hback,
    List.reverse_reverse]

/-- A text consists of what trimming leaves and of the blanks around it. -/
theorem exists_eq_append_trimmed (cs : List Char) : ∃ before after, cs = before ++ trimmed cs ++ after ∧
    (∀ c ∈ before, isBlank c = true) ∧ ∀ c ∈ after, isBlank c = true := by
  have hblank (l : List Char) : ∀ c ∈ l.takeWhile isBlank, isBlank c = true := fun c hc =>
    List.all_eq_true.mp List.all_takeWhile c hc
  obtain ⟨rest, hrest⟩ : ∃ rest, cs.dropWhile isBlank = rest := ⟨_, rfl⟩
  refine ⟨cs.takeWhile isBlank, (rest.reverse.takeWhile isBlank).reverse, ?_, hblank cs,
    fun c hc => hblank _ c (List.mem_reverse.mp hc)⟩
  have hsplit : rest = trimmed cs ++ (rest.reverse.takeWhile isBlank).reverse := by
    rw [trimmed, hrest, ← List.reverse_append, List.takeWhile_append_dropWhile, List.reverse_reverse]
  rw [List.append_assoc, ← hsplit, ← hrest, List.takeWhile_append_dropWhile]

/-- A text is read, once it is trimmed, where it writes an integer, and as this integer. -/
theorem signedNumeral?_trim {s : String} {i : Int} :
    signedNumeral? (trim s).toList = some i ↔ Writes s i := by
  rw [trim, String.toList_ofList, signedNumeral?_eq_some_iff]
  constructor
  · intro h
    obtain ⟨before, after, hs, hbefore, hafter⟩ := exists_eq_append_trimmed s.toList
    exact ⟨before, _, after, hs, hbefore, h, hafter⟩
  · rintro ⟨before, numeral, after, hs, hbefore, hnumeral, hafter⟩
    have hne : numeral ≠ [] := by
      rintro rfl
      cases hnumeral with
      | unsigned hds => exact hds.1 rfl
    rw [hs, trimmed_append hbefore hnumeral.isBlank_eq_false hafter hne]
    exact hnumeral

theorem Writes.unique {s : String} {i j : Int} (hi : Writes s i) (hj : Writes s j) : i = j :=
  Option.some.inj ((signedNumeral?_trim.mpr hi).symm.trans (signedNumeral?_trim.mpr hj))

end Sentinel.Text
