import Sentinel.Content.Stream
/-!
# The bytes of texts

1. `utf8_append`, `utf8_join`, `utf8_inj`: the bytes of texts stand one behind the other, and no two
   texts have the same.
2. `firstLess_utf8EncodeChar`, `utf8_lt_iff`: the bytes of texts are ordered as their characters are.
-/

namespace Sentinel

/-- Two rows differ at some place, and there the first has less. -/
def FirstLess {α : Type} [LT α] (xs ys : List α) : Prop :=
  ∃ (lead : List α) (x y : α) (s t : List α), xs = lead ++ x :: s ∧ ys = lead ++ y :: t ∧ x < y

namespace FirstLess

variable {α : Type} [LT α] {xs ys : List α}

theorem intro {x y : α} (h : x < y) (lead s t : List α) : FirstLess (lead ++ x :: s) (lead ++ y :: t) :=
  ⟨lead, x, y, s, t, rfl, rfl, h⟩

theorem append (h : FirstLess xs ys) (s t : List α) : FirstLess (xs ++ s) (ys ++ t) := by
  obtain ⟨lead, x, y, s', t', rfl, rfl, hxy⟩ := h
  rw [List.append_assoc, List.append_assoc, List.cons_append, List.cons_append]
  exact intro hxy lead _ _

theorem append_left (lead : List α) (h : FirstLess xs ys) : FirstLess (lead ++ xs) (lead ++ ys) := by
  obtain ⟨lead', x, y, s, t, rfl, rfl, hxy⟩ := h
  rw [← List.append_assoc, ← List.append_assoc]
  exact intro hxy _ s t

theorem lt (h : FirstLess xs ys) : xs < ys := by
  obtain ⟨lead, x, y, s, t, rfl, rfl, hxy⟩ := h
  induction lead with
  | nil => exact List.Lex.rel hxy
  | cons a lead ih => exact List.Lex.cons ih

/-- Bytes that stand for digits: the first pair that differs decides. -/
theorem digit {m n : Nat} {s t : Bytes} (hle : m ≤ n) (hn : n < 256) (h : m = n → FirstLess s t) :
    FirstLess (UInt8.ofNat m :: s) (UInt8.ofNat n :: t) := by
  by_cases he : m = n
  · subst he
    exact append_left [UInt8.ofNat m] (h rfl)
  · refine intro ?_ [] s t
    rw [UInt8.lt_iff_toNat_lt, UInt8.toNat_ofNat', UInt8.toNat_ofNat']
    omega

theorem lastDigit {m n : Nat} (h : m < n) (hn : n < 256) : FirstLess [UInt8.ofNat m] [UInt8.ofNat n] :=
  digit (Nat.le_of_lt h) hn fun he => absurd he (Nat.ne_of_lt h)

end FirstLess

/-- A character with a smaller number has the smaller bytes, and neither row of bytes goes on with
the other. -/
theorem firstLess_utf8EncodeChar {c d : Char} (h : c < d) :
    FirstLess (String.utf8EncodeChar c) (String.utf8EncodeChar d) := by
  have hv : c.val.toNat < d.val.toNat := h
  have hd : d.val.toNat < 0x110000 := by
    have := d.valid
    simp only [UInt32.isValidChar, Nat.isValidChar] at this
    omega
  simp only [String.utf8EncodeChar]
  generalize c.val.toNat = m at hv ⊢
  generalize d.val.toNat = n at hv hd ⊢
  -- One case for each number of bytes of the smaller character; the greater one has no fewer.
  by_cases m1 : m ≤ 0x7f
  · rw [if_pos m1]
    by_cases n1 : n ≤ 0x7f
    · rw [if_pos n1]
      exact .lastDigit hv (by omega)
    · rw [if_neg n1]
      split
      · exact .digit (by omega) (by omega) (by omega)
      · split <;> exact .digit (by omega) (by omega) (by omega)
  · rw [if_neg m1, if_neg (show ¬n ≤ 0x7f by omega)]
    by_cases m2 : m ≤ 0x7ff
    · rw [if_pos m2]
      by_cases n2 : n ≤ 0x7ff
      · rw [if_pos n2]
        refine .digit (by omega) (by omega) fun h1 => ?_
        exact .lastDigit (by omega) (by omega)
      · rw [if_neg n2]
        split <;> exact .digit (by omega) (by omega) (by omega)
    · rw [if_neg m2, if_neg (show ¬n ≤ 0x7ff by omega)]
      by_cases m3 : m ≤ 0xffff
      · rw [if_pos m3]
        by_cases n3 : n ≤ 0xffff
        · rw [if_pos n3]
          refine .digit (by omega) (by omega) fun h1 => ?_
          refine .digit (by omega) (by omega) fun h2 => ?_
          exact .lastDigit (by omega) (by omega)
        · rw [if_neg n3]
          exact .digit (by omega) (by omega) (by omega)
      · rw [if_neg m3, if_neg (show ¬n ≤ 0xffff by omega)]
        refine .digit (by omega) (by omega) fun h1 => ?_
        refine .digit (by omega) (by omega) fun h2 => ?_
        refine .digit (by omega) (by omega) fun h3 => ?_
        exact .lastDigit (by omega) (by omega)

theorem utf8_eq (s : String) : utf8 s = s.toList.flatMap String.utf8EncodeChar := by
  rw [utf8, String.toUTF8_eq_toByteArray, ← String.utf8Encode_toList, List.utf8Encode,
    List.toList_data_toByteArray]

theorem utf8_append (s t : String) : utf8 (s ++ t) = utf8 s ++ utf8 t := by
  rw [utf8_eq, utf8_eq, utf8_eq, String.toList_append, List.flatMap_append]

theorem utf8_inj {s t : String} (h : utf8 s = utf8 t) : s = t := by
  apply String.toByteArray_inj.mp
  apply ByteArray.ext
  exact Array.toList_inj.mp h

theorem utf8_lt {s t : String} (h : s < t) : utf8 s < utf8 t := by
  rw [String.lt_iff] at h
  rw [utf8_eq, utf8_eq]
  generalize s.toList = xs at h ⊢
  generalize t.toList = ys at h ⊢
  induction h with
  | @nil y ys =>
    rw [List.flatMap_nil, List.flatMap_cons]
    have hlength : 0 < (String.utf8EncodeChar y).length := by
      rw [String.length_utf8EncodeChar]
      exact Char.utf8Size_pos y
    obtain ⟨b, bs, hb⟩ := List.exists_cons_of_length_pos hlength
    rw [hb]
    exact List.Lex.nil
  | @rel x xs y ys hxy =>
    rw [List.flatMap_cons, List.flatMap_cons]
    exact ((firstLess_utf8EncodeChar hxy).append _ _).lt
  | @cons x xs ys _ ih =>
    rw [List.flatMap_cons, List.flatMap_cons]
    exact List.append_left_lt ih

theorem utf8_lt_iff {s t : String} : utf8 s < utf8 t ↔ s < t := by
  refine ⟨fun h => ?_, utf8_lt⟩
  by_cases heq : s = t
  · rw [heq] at h
    exact absurd h (List.lt_irrefl _)
  · by_cases hlt : s < t
    · exact hlt
    · have hgt : t < s := Std.lt_of_le_of_ne (Std.not_lt.mp hlt) (Ne.symm heq)
      exact absurd h (List.lt_asymm (utf8_lt hgt))

theorem utf8_join (ss : List String) : utf8 (String.join ss) = ss.flatMap utf8 := by
  have hfold (s : String) : utf8 (ss.foldl (· ++ ·) s) = utf8 s ++ ss.flatMap utf8 := by
    induction ss generalizing s with
    | nil => exact (List.append_nil _).symm
    | cons t ts ih => rw [List.foldl_cons, ih, utf8_append, List.flatMap_cons, List.append_assoc]
  exact hfold ""

end Sentinel
