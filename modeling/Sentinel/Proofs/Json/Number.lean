import Sentinel.Json.Document
import Sentinel.Json.Printer
import Sentinel.Proofs.Decimal.Shortest
/-!
# Numbers in JSON

A number that is written as the grammar of JSON asks is read as its sign, its digits and its exponent,
whatever stands behind it that does not go on with it. Integers and binary numbers are written so.

1. `readNumber_chars`: reading a written number.
2. `isWritten_numberOf`, `integer?_numberOf`: an integer, and the same integer again if it has 64 bits.
3. `text_eq_chars`, `isWritten_written`: a binary number in each of its layouts.
-/

namespace Sentinel

namespace Text

theorem head?_decimal_ne {n : Nat} (h : n ≠ 0) : (decimal n).head? ≠ some '0' := by
  induction n using Nat.strongRecOn with
  | _ n ih =>
    rw [decimal]
    split
    · next hlt =>
      have hall : ∀ n < 10, n ≠ 0 → [n.digitChar].head? ≠ some '0' := by decide
      exact hall n hlt h
    · next hge =>
      rw [List.head?_append, List.head?_eq_some_head (decimal_ne_nil _), Option.some_or, ← List.head?_eq_some_head]
      exact ih (n / 10) (by omega) (by omega)

/-- Digits that the whole part of a number may have: zero alone, or some that do not begin with it. -/
def IsWhole (ds : List Char) : Prop :=
  ds = ['0'] ∨ ds ≠ [] ∧ ds.head? ≠ some '0' ∧ ds.all Char.isDigit = true

theorem isWhole_decimal (n : Nat) : IsWhole (decimal n) := by
  by_cases hn : n = 0
  · subst hn
    left
    rw [decimal]
    rfl
  · exact .inr ⟨decimal_ne_nil n, head?_decimal_ne hn, all_isDigit_decimal n⟩

theorem isWhole_take {n k : Nat} (hn : n ≠ 0) (hk : k ≠ 0) : IsWhole ((decimal n).take k) := by
  have hall := List.all_eq_true.mp (all_isDigit_decimal n)
  refine .inr ⟨?_, ?_, List.all_eq_true.mpr fun c hc => hall c (List.mem_of_mem_take hc)⟩
  · simp [List.take_eq_nil_iff, hk, decimal_ne_nil]
  · rw [List.head?_take, if_neg hk]
    exact head?_decimal_ne hn

theorem isWhole_append_zeros {n : Nat} (hn : n ≠ 0) (k : Nat) :
    IsWhole (decimal n ++ List.replicate k '0') := by
  refine .inr ⟨List.append_ne_nil_of_left_ne_nil (decimal_ne_nil n) _, ?_, ?_⟩
  · rw [List.head?_append, List.head?_eq_some_head (decimal_ne_nil n), Option.some_or,
      ← List.head?_eq_some_head]
    exact head?_decimal_ne hn
  · rw [List.all_append, all_isDigit_decimal, List.all_replicate]
    simp

end Text

namespace NumberText

/-- The characters behind the sign. -/
def unsignedChars (n : NumberText) : List Char :=
  n.whole ++ ((if n.fraction = [] then [] else '.' :: n.fraction) ++
    match n.exponent with
    | none => []
    | some e => 'e' :: (if e < 0 then '-' else '+') :: Text.decimal e.natAbs)

/-- A number as it is written, an exponent always with its sign. -/
def chars (n : NumberText) : List Char := if n.negative then '-' :: n.unsignedChars else n.unsignedChars

theorem chars_eq_append (n : NumberText) :
    n.chars = (if n.negative then ['-'] else []) ++ n.unsignedChars := by
  rw [chars]
  split <;> rfl

/-- The parts of the number are digits, as the grammar asks. -/
structure IsWritten (n : NumberText) : Prop where
  whole : Text.IsWhole n.whole
  fraction : n.fraction.all Char.isDigit = true

end NumberText

namespace Document

variable {rest : List Char}

/-- What stands behind digits does not go on with them. -/
def EndsDigits (rest : List Char) : Prop := ∀ c ∈ rest.head?, c.isDigit = false

/-- What stands behind a number does not go on with it. -/
def EndsNumber (rest : List Char) : Prop :=
  ∀ c ∈ rest.head?, c.isDigit = false ∧ c ≠ '.' ∧ c ≠ 'e' ∧ c ≠ 'E'

theorem EndsNumber.endsDigits (h : EndsNumber rest) : EndsDigits rest := fun c hc => (h c hc).1

theorem endsDigits_cons {c : Char} (hc : c.isDigit = false) (cs : List Char) : EndsDigits (c :: cs) := by
  rintro d hd
  obtain rfl : c = d := Option.some.inj hd
  exact hc

theorem readDigits_append {ds : List Char} (hds : ds ≠ []) (hall : ds.all Char.isDigit = true)
    (hrest : EndsDigits rest) : readDigits (ds ++ rest) = some (ds, rest) := by
  rw [List.all_eq_true] at hall
  have htake : (ds ++ rest).takeWhile Char.isDigit = ds := by
    rw [List.takeWhile_append_of_pos hall]
    cases rest with
    | nil => exact List.append_nil ds
    | cons c cs => rw [List.takeWhile_cons_of_neg (by simp [hrest c rfl]), List.append_nil]
  have hdrop : (ds ++ rest).dropWhile Char.isDigit = rest := by
    rw [List.dropWhile_append_of_pos hall]
    cases rest with
    | nil => rfl
    | cons c cs => rw [List.dropWhile_cons_of_neg (by simp [hrest c rfl])]
  rw [readDigits, htake, hdrop]
  exact if_neg (by simpa using hds)

theorem readWhole_append {ds : List Char} (hds : Text.IsWhole ds) (hrest : EndsDigits rest) :
    readWhole (ds ++ rest) = some (ds, rest) := by
  rcases hds with rfl | ⟨hne, hhead, hall⟩
  · rw [List.singleton_append]
    cases rest with
    | nil => rfl
    | cons c cs => exact if_neg (by simp [hrest c rfl])
  · have hzero (cs : List Char) : ds ++ rest ≠ '0' :: cs := by
      intro hcs
      have hfirst := congrArg List.head? hcs
      rw [List.head?_append, List.head?_eq_some_head hne, Option.some_or, ← List.head?_eq_some_head] at hfirst
      exact hhead hfirst
    rw [readWhole]
    · exact readDigits_append hne hall hrest
    all_goals exact fun _ => hzero _

theorem readFraction_append {ds : List Char} (hall : ds.all Char.isDigit = true) (hrest : EndsDigits rest)
    (hpoint : rest.head? ≠ some '.') :
    readFraction ((if ds = [] then [] else '.' :: ds) ++ rest) = some (ds, rest) := by
  split
  · next h =>
    rw [List.nil_append, readFraction, h]
    rintro cs rfl
    exact hpoint rfl
  · next h => exact readDigits_append h hall hrest

theorem readExponent_of_ends (hrest : EndsNumber rest) : readExponent rest = some (none, rest) := by
  cases rest with
  | nil => rfl
  | cons c cs =>
    obtain ⟨-, -, he, hE⟩ := hrest c rfl
    unfold readExponent
    exact if_neg (by simp [he, hE])

theorem readExponent_signed (e : Int) (hrest : EndsNumber rest) :
    readExponent ('e' :: (if e < 0 then '-' else '+') :: Text.decimal e.natAbs ++ rest) =
      some (some e, rest) := by
  have hdigits := readDigits_append (Text.decimal_ne_nil e.natAbs) (Text.all_isDigit_decimal e.natAbs)
    hrest.endsDigits
  have hread (negative : Bool) : readExponentDigits negative (Text.decimal e.natAbs ++ rest) =
      some (some (if negative then -(e.natAbs : Int) else e.natAbs), rest) := by
    simp only [readExponentDigits, hdigits, Option.map_some, Text.value_decimal]
  by_cases he : e < 0
  · rw [if_pos he]
    refine (hread true).trans ?_
    rw [if_pos rfl, show -(e.natAbs : Int) = e by omega]
  · rw [if_neg he]
    refine (hread false).trans ?_
    rw [if_neg Bool.false_ne_true, show (e.natAbs : Int) = e by omega]

theorem readNumber_chars {n : NumberText} (hn : n.IsWritten) (hrest : EndsNumber rest) :
    readNumber n.negative (n.unsignedChars ++ rest) = some (.number n, rest) := by
  obtain ⟨negative, whole, fraction, exponent⟩ := n
  obtain ⟨hwhole, hfraction⟩ := hn
  dsimp only at hwhole hfraction ⊢
  obtain ⟨behind, hbehind, hdigits, hpoint, hexponent⟩ : ∃ behind : List Char,
      NumberText.unsignedChars ⟨negative, whole, fraction, exponent⟩ ++ rest =
        whole ++ ((if fraction = [] then [] else '.' :: fraction) ++ behind) ∧
      EndsDigits behind ∧ behind.head? ≠ some '.' ∧ readExponent behind = some (exponent, rest) := by
    cases exponent with
    | none =>
      refine ⟨rest, by simp [NumberText.unsignedChars], hrest.endsDigits, ?_, readExponent_of_ends hrest⟩
      exact fun h => (hrest '.' h).2.1 rfl
    | some e =>
      exact ⟨_, by simp [NumberText.unsignedChars], endsDigits_cons rfl _, by simp,
        readExponent_signed e hrest⟩
  have hends : EndsDigits ((if fraction = [] then [] else '.' :: fraction) ++ behind) := by
    split
    · exact hdigits
    · exact endsDigits_cons rfl _
  simp only [hbehind, readNumber, readWhole_append hwhole hends, Option.bind_eq_bind, Option.bind_some,
    readFraction_append hfraction hdigits hpoint, hexponent]
  rfl

/-- An integer as it is written. -/
def numberOf (i : Int) : NumberText := ⟨decide (i < 0), Text.decimal i.natAbs, [], none⟩

theorem chars_numberOf (i : Int) : (numberOf i).chars = Text.signedDecimal i := by
  simp [NumberText.chars, NumberText.unsignedChars, numberOf, Text.signedDecimal]

theorem isWritten_numberOf (i : Int) : (numberOf i).IsWritten := ⟨Text.isWhole_decimal _, rfl⟩

/-- An integer that a word holds, signed or not, is read as it was. -/
theorem integer?_numberOf {i : Int} (hlo : -(UInt64.size / 2 : Int) ≤ i) (hhi : i < UInt64.size) :
    (numberOf i).integer? = some i := by
  have hsize : UInt64.size = 18446744073709551616 := rfl
  have hread : (numberOf i).integer? =
      if decide (i < 0) then
        if i.natAbs = 0 ∨ UInt64.size / 2 < i.natAbs then none else some (-(i.natAbs : Int))
      else if i.natAbs < UInt64.size then some (i.natAbs : Int) else none := by
    rw [← Text.value_decimal i.natAbs]
    rfl
  rw [hread]
  by_cases hi : i < 0
  · rw [if_pos (decide_eq_true hi), if_neg (by omega)]
    congr 1
    omega
  · rw [if_neg (by simpa using hi), if_pos (by omega)]
    congr 1
    omega

end Document

namespace Decimal.Binary64

/-- A binary number as it is written: positional or with an exponent, and always with a fraction in
positional notation. -/
def written (x : Binary64) : NumberText :=
  if x.isZero then ⟨x.negative, ['0'], ['0'], none⟩
  else
    let ds := Text.decimal x.shortest.1
    let scale := x.shortest.2
    let point : Int := ds.length + scale
    if 0 ≤ scale ∧ point ≤ 16 then ⟨x.negative, ds ++ List.replicate scale.toNat '0', ['0'], none⟩
    else if 0 < point ∧ point ≤ 16 then ⟨x.negative, ds.take point.toNat, ds.drop point.toNat, none⟩
    else if -5 < point ∧ point ≤ 0 then
      ⟨x.negative, ['0'], List.replicate (-point).toNat '0' ++ ds, none⟩
    else ⟨x.negative, ds.take 1, ds.drop 1, some (point - 1)⟩

theorem text_eq_chars (x : Binary64) : x.text = x.written.chars := by
  have hpos := List.length_pos_of_ne_nil (Text.decimal_ne_nil x.shortest.1)
  rw [NumberText.chars_eq_append]
  by_cases hzero : x.isZero = true
  · simp only [text, written, if_pos hzero]
    rfl
  simp only [text, written, if_neg hzero]
  by_cases hwhole : 0 ≤ x.shortest.2 ∧ (Text.decimal x.shortest.1).length + x.shortest.2 ≤ 16
  · simp [if_pos hwhole, NumberText.unsignedChars]
  simp only [if_neg hwhole]
  by_cases hpoint : 0 < (Text.decimal x.shortest.1).length + x.shortest.2 ∧
      (Text.decimal x.shortest.1).length + x.shortest.2 ≤ 16
  · -- The scale is negative here, so digits are left for the fraction.
    have hfraction : (Text.decimal x.shortest.1).drop
        ((Text.decimal x.shortest.1).length + x.shortest.2).toNat ≠ [] := by
      rw [ne_eq, List.drop_eq_nil_iff]
      omega
    simp [if_pos hpoint, NumberText.unsignedChars, -List.drop_eq_nil_iff, hfraction]
  simp only [if_neg hpoint]
  by_cases hsmall : -5 < (Text.decimal x.shortest.1).length + x.shortest.2 ∧
      (Text.decimal x.shortest.1).length + x.shortest.2 ≤ 0
  · simp [if_pos hsmall, NumberText.unsignedChars, Text.decimal_ne_nil]
  · have hfraction : (Text.decimal x.shortest.1).drop 1 = [] ↔ (Text.decimal x.shortest.1).length = 1 := by
      rw [List.drop_eq_nil_iff]
      omega
    simp only [if_neg hsmall, NumberText.unsignedChars, hfraction, List.append_assoc]

/-- The text of a binary number has the parts that the grammar asks for. -/
theorem isWritten_written {x : Binary64} (hx : x.IsFinite) : x.written.IsWritten := by
  have hall := List.all_eq_true.mp (Text.all_isDigit_decimal x.shortest.1)
  unfold written
  split
  · exact ⟨.inl rfl, rfl⟩
  · next hzero =>
    have hdigits : x.shortest.1 ≠ 0 := shortest_ne_zero (Bool.eq_false_iff.mpr hzero) hx
    dsimp only
    split
    · exact ⟨Text.isWhole_append_zeros hdigits _, rfl⟩
    · split
      · refine ⟨Text.isWhole_take hdigits (by omega), List.all_eq_true.mpr fun c hc => ?_⟩
        exact hall c (List.mem_of_mem_drop hc)
      · split
        · refine ⟨.inl rfl, ?_⟩
          rw [List.all_append, Text.all_isDigit_decimal, List.all_replicate]
          simp
        · refine ⟨Text.isWhole_take hdigits (by decide), List.all_eq_true.mpr fun c hc => ?_⟩
          exact hall c (List.mem_of_mem_drop hc)

end Decimal.Binary64

end Sentinel
