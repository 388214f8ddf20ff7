import Sentinel.Json.Document
import Sentinel.Json.Printer
/-!
# Texts in JSON

A text that is written in quotes is read back as it was, whatever stands behind it.

1. `hexValue?_hexDigits`: digits of a fixed width stand for the lowest places of the number.
2. `readUnits_escaped`, `join?_unitOf`: one character that is written as an escape or as itself, and
   what reading makes of it.
3. `readString_escaped`: a whole text, up to its closing quote.
-/

namespace Sentinel

namespace Text

theorem hexValue?_append_singleton (cs : List Char) (c : Char) :
    hexValue? (cs ++ [c]) = (hexValue? cs).bind fun n => (hexDigitValue? c).map (16 * n + ·) := by
  rw [hexValue?, List.foldl_append]
  show (hexValue? cs).bind _ = _
  congr 1
  funext n
  cases hexDigitValue? c <;> rfl

theorem hexDigitValue?_digitChar {n : Nat} (h : n < 16) : hexDigitValue? n.digitChar = some n := by
  have hall : ∀ n < 16, hexDigitValue? n.digitChar = some n := by decide
  exact hall n h

theorem hexValue?_hexDigits (width n : Nat) :
    hexValue? (hexDigits width n) = some (n % Nat.pow 16 width) := by
  induction width generalizing n with
  | zero => exact congrArg some (Nat.mod_one n).symm
  | succ width ih =>
    have hpow : Nat.pow 16 (width + 1) = 16 * Nat.pow 16 width := Nat.mul_comm _ _
    rw [hexDigits, hexValue?_append_singleton, ih, Option.bind_some,
      hexDigitValue?_digitChar (Nat.mod_lt n (by decide)), Option.map_some, hpow, Nat.mod_mul, Nat.add_comm]

end Text

namespace Document

open Json

/-- What reading makes of a character that is written in quotes: one that has no escape of its own is
given by its number. -/
def unitOf (c : Char) : Unit16 :=
  if c.toNat < 32 ∧ c ∉ ['\n', '\r', '\t', Char.ofNat 8, Char.ofNat 12] then .code c.toNat else .char c

theorem readUnits_code (acc : List Unit16) {n : Nat} (hn : n < Nat.pow 16 4) (cs : List Char) :
    readUnits acc ('\\' :: 'u' :: (Text.hexDigits 4 n ++ cs)) = readUnits (.code n :: acc) cs := by
  have hvalue := Text.hexValue?_hexDigits 4 n
  rw [Nat.mod_eq_of_lt hn] at hvalue
  obtain ⟨a, b, c, d, hdigits⟩ : ∃ a b c d, Text.hexDigits 4 n = [a, b, c, d] := ⟨_, _, _, _, rfl⟩
  rw [hdigits] at hvalue ⊢
  simp only [List.cons_append, List.nil_append]
  rw [readUnits, hvalue]

theorem readUnits_short (acc : List Unit16) {e c : Char} (he : e ≠ 'u') (hc : shortEscape? e = some c)
    (cs : List Char) : readUnits acc ('\\' :: e :: cs) = readUnits (.char c :: acc) cs := by
  rw [readUnits]
  · rw [hc]
  · intro a b c d cs' h
    exact absurd h he

theorem readUnits_plain (acc : List Unit16) {c : Char} (hquote : c ≠ '"') (hslash : c ≠ '\\')
    (hc : ¬c.toNat < 32) (cs : List Char) : readUnits acc (c :: cs) = readUnits (.char c :: acc) cs := by
  rw [readUnits]
  · rw [if_neg (by simp [hc, hslash])]
  · exact hquote
  all_goals intros; simp_all

theorem readUnits_escaped (acc : List Unit16) (c : Char) (cs : List Char) :
    readUnits acc (escaped c ++ cs) = readUnits (unitOf c :: acc) cs := by
  by_cases hshort : c = '"' ∨ c = '\\' ∨ c = '\n' ∨ c = '\r' ∨ c = '\t' ∨ c = Char.ofNat 8 ∨ c = Char.ofNat 12
  · rcases hshort with rfl | rfl | rfl | rfl | rfl | rfl | rfl <;>
      exact readUnits_short acc (by decide) rfl cs
  · simp only [not_or] at hshort
    obtain ⟨hquote, hslash, hn, hr, ht, hb, hf⟩ := hshort
    rw [escaped, if_neg hquote, if_neg hslash, if_neg hn, if_neg hr, if_neg ht, if_neg hb, if_neg hf]
    by_cases hc : c.toNat < 32
    · rw [if_pos hc, unitOf, if_pos ⟨hc, by simp [hn, hr, ht, hb, hf]⟩]
      exact readUnits_code acc (Nat.lt_trans hc (by decide)) cs
    · rw [if_neg hc, unitOf, if_neg fun h => hc h.1]
      exact readUnits_plain acc hquote hslash hc cs

theorem readUnits_flatMap_escaped (acc : List Unit16) (cs rest : List Char) :
    readUnits acc (cs.flatMap escaped ++ '"' :: rest) = some (acc.reverse ++ cs.map unitOf, rest) := by
  induction cs generalizing acc with
  | nil => rw [List.flatMap_nil, List.nil_append, readUnits, List.map_nil, List.append_nil]
  | cons c cs ih =>
    rw [List.flatMap_cons, List.append_assoc, readUnits_escaped, ih, List.reverse_cons, List.append_assoc]
    rfl

/-- The number of a control character is no half of a pair. -/
theorem join?_unitOf (acc : List Char) (c : Char) (us : List Unit16) :
    join? acc (unitOf c :: us) = join? (c :: acc) us := by
  unfold unitOf
  split
  · next h =>
    have hc : c.toNat < 32 := h.1
    have hchar : Char.ofNat c.toNat = c := Char.ofNat_toNat c
    rcases us with _ | ⟨d | lo, us⟩
    · rw [join?.eq_def]
      simp only
      rw [if_neg (by omega), hchar]
    · rw [join?.eq_def]
      simp only
      rw [if_neg (by omega), hchar]
    · rw [join?, if_neg (by omega), if_neg (by omega), hchar]
  · rw [join?]

theorem join?_map_unitOf (acc cs : List Char) : join? acc (cs.map unitOf) = some (acc.reverse ++ cs) := by
  induction cs generalizing acc with
  | nil => rw [List.map_nil, join?, List.append_nil]
  | cons c cs ih =>
    rw [List.map_cons, join?_unitOf, ih, List.reverse_cons, List.append_assoc]
    rfl

/-- Any text that is written in quotes reads back. -/
theorem readString_escaped (s : String) (rest : List Char) :
    readString (s.toList.flatMap escaped ++ '"' :: rest) = some (some s, rest) := by
  rw [readString, readUnits_flatMap_escaped, Option.map_some]
  dsimp only
  rw [List.reverse_nil, List.nil_append, join?_map_unitOf, Option.map_some, List.reverse_nil,
    List.nil_append, String.ofList_toList]

end Document

end Sentinel
