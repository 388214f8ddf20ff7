import Mathlib.Algebra.Order.Field.Power
import Mathlib.Data.Nat.Log
import Mathlib.Data.Rat.Cast.Order
import Mathlib.Tactic.FieldSimp
import Mathlib.Tactic.Positivity
import Sentinel.Decimal.Shortest
/-!
# Shortest digits are digits of a number

The digits that are chosen for a number other than zero do not stand for zero. A grid with a hit has
one that is not zero, since zero rounds to no other number, and the finest grid has a whole unit below
every number, since the search for its place starts low enough.

1. `le_ratio_iff`: the comparison of a ratio with a power that the searches make.
2. `zpow_floorLog2_le`, `zpow_floorLog10_le`: both searches stay at or below the number.
3. `shortest_ne_zero`: the digits of a number that is not zero.
-/

namespace Sentinel.Decimal

namespace Binary64

/-- The numbers of the format: mantissas of 53 bits and exponents in its range. -/
structure IsFinite (x : Binary64) : Prop where
  mantissa : x.mantissa < Nat.pow 2 53
  exponent : minExponent ≤ x.exponent ∧ x.exponent ≤ maxExponent

instance (x : Binary64) : Decidable x.IsFinite :=
  decidable_of_iff (x.mantissa < Nat.pow 2 53 ∧ minExponent ≤ x.exponent ∧ x.exponent ≤ maxExponent)
    ⟨fun h => ⟨h.1, h.2⟩, fun h => ⟨h.mantissa, h.exponent⟩⟩

variable {num den : ℕ}

/-- A ratio is compared with a power by multiplying the side that has the smaller numbers. -/
theorem le_ratio_iff (num : ℕ) {b : ℕ} (hb : 0 < b) (hden : 0 < den) (k : ℤ) :
    (if 0 ≤ k then den * b ^ k.toNat ≤ num else den ≤ num * b ^ (-k).toNat) ↔
      (b : ℚ) ^ k ≤ (num : ℚ) / den := by
  have hden' : (0 : ℚ) < den := by exact_mod_cast hden
  rw [le_div_iff₀ hden']
  split
  · next hk =>
    obtain ⟨n, rfl⟩ := Int.eq_ofNat_of_zero_le hk
    rw [Int.toNat_natCast, zpow_natCast, mul_comm]
    exact_mod_cast Iff.rfl
  · next hk =>
    obtain ⟨n, hn⟩ : ∃ n : ℕ, -k = n := Int.eq_ofNat_of_zero_le (by omega)
    have hpow : (0 : ℚ) < (b : ℚ) ^ n := by positivity
    rw [hn, Int.toNat_natCast, ← neg_neg k, hn, zpow_neg, zpow_natCast, inv_mul_le_iff₀ hpow, mul_comm]
    exact_mod_cast Iff.rfl

theorem zpow_floorLog2_le (hnum : 0 < num) (hden : 0 < den) :
    (2 : ℚ) ^ floorLog2 num den ≤ (num : ℚ) / den := by
  have hfits := le_ratio_iff num (b := 2) (by decide) hden (num.log2 - den.log2)
  simp only [floorLog2, Nat.shiftLeft_eq, hfits, Nat.cast_ofNat]
  split
  · next h => exact h
  · -- The quotient of the leading powers is above the ratio by less than a factor of two.
    have hlow : (2 : ℚ) ^ (num.log2 : ℤ) ≤ num := by
      exact_mod_cast Nat.log2_self_le hnum.ne'
    have hhigh : (den : ℚ) ≤ (2 : ℚ) ^ (den.log2 + 1 : ℤ) := by
      exact_mod_cast (Nat.lt_log2_self (n := den)).le
    have hden' : (0 : ℚ) < den := by exact_mod_cast hden
    rw [le_div_iff₀ hden']
    calc (2 : ℚ) ^ ((num.log2 : ℤ) - den.log2 - 1) * den
        ≤ (2 : ℚ) ^ ((num.log2 : ℤ) - den.log2 - 1) * (2 : ℚ) ^ (den.log2 + 1 : ℤ) := by gcongr
      _ = (2 : ℚ) ^ (num.log2 : ℤ) := by
        rw [← zpow_add₀ (by norm_num)]
        congr 1
        omega
      _ ≤ num := hlow

theorem zpow_floorLog10_le (hden : 0 < den) (steps : ℕ) {k : ℤ} (hk : (10 : ℚ) ^ k ≤ (num : ℚ) / den) :
    (10 : ℚ) ^ floorLog10 num den steps k ≤ (num : ℚ) / den := by
  induction steps generalizing k with
  | zero => exact hk
  | succ steps ih =>
    have hfits := le_ratio_iff num (b := 10) (by decide) hden (k + 1)
    simp only [floorLog10, Nat.pow_eq, hfits, Nat.cast_ofNat]
    split
    · next h => exact ih h
    · exact hk

/-- Three decimal places for ten binary ones are too few above one; below it, the two more that are taken
off make up for what is missing, down to the smallest numbers of the format. -/
theorem ten_zpow_le_two_zpow {l : ℤ} (hl : -1075 ≤ l) : (10 : ℚ) ^ (l * 3 / 10 - 2) ≤ (2 : ℚ) ^ l := by
  rcases le_or_gt 0 l with hpos | hneg
  · obtain ⟨n, rfl⟩ := Int.eq_ofNat_of_zero_le hpos
    have hcube : (10 ^ (n * 3 / 10)) ^ 3 ≤ (2 ^ n) ^ 3 :=
      calc (10 ^ (n * 3 / 10)) ^ 3 = (10 ^ 3) ^ (n * 3 / 10) := by rw [← pow_mul, ← pow_mul, mul_comm]
        _ ≤ (2 ^ 10) ^ (n * 3 / 10) := Nat.pow_le_pow_left (by decide) _
        _ = 2 ^ (10 * (n * 3 / 10)) := by rw [← pow_mul]
        _ ≤ 2 ^ (n * 3) := Nat.pow_le_pow_right (by decide) (by omega)
        _ = (2 ^ n) ^ 3 := by rw [← pow_mul]
    calc (10 : ℚ) ^ ((n : ℤ) * 3 / 10 - 2) ≤ (10 : ℚ) ^ ((n * 3 / 10 : ℕ) : ℤ) :=
          zpow_le_zpow_right₀ (by norm_num) (by omega)
      _ ≤ (2 : ℚ) ^ (n : ℤ) := by exact_mod_cast (Nat.pow_le_pow_iff_left (by decide)).mp hcube
  · obtain ⟨n, hn⟩ : ∃ n : ℕ, -l = n := Int.eq_ofNat_of_zero_le (by omega)
    obtain ⟨t, ht⟩ : ∃ t : ℕ, 2 - l * 3 / 10 = t := Int.eq_ofNat_of_zero_le (by omega)
    have hpower : (2 ^ n) ^ 28 ≤ (10 ^ t) ^ 28 :=
      calc (2 ^ n) ^ 28 = 2 ^ (n * 28) := by rw [← pow_mul]
        _ ≤ 2 ^ (93 * t) := Nat.pow_le_pow_right (by decide) (by omega)
        _ = (2 ^ 93) ^ t := by rw [pow_mul]
        _ ≤ (10 ^ 28) ^ t := Nat.pow_le_pow_left (by decide) t
        _ = (10 ^ t) ^ 28 := by rw [← pow_mul, ← pow_mul, mul_comm]
    have hle : (2 : ℚ) ^ n ≤ (10 : ℚ) ^ t := by
      exact_mod_cast (Nat.pow_le_pow_iff_left (by decide)).mp hpower
    have hl : l = -(n : ℤ) := by omega
    have ht : l * 3 / 10 - 2 = -(t : ℤ) := by omega
    rw [ht, hl, zpow_neg, zpow_neg, zpow_natCast, zpow_natCast]
    exact inv_anti₀ (by positivity) hle

section

variable {x : Binary64}

theorem ratio_pos (hx : x.mantissa ≠ 0) : 0 < x.ratio.1 ∧ 0 < x.ratio.2 := by
  unfold ratio
  split
  · exact ⟨by rw [Nat.shiftLeft_eq]; positivity, Nat.one_pos⟩
  · exact ⟨Nat.pos_of_ne_zero hx, by rw [Nat.shiftLeft_eq]; positivity⟩

theorem floorLog2_ratio_ge (hx : minExponent ≤ x.exponent) : -1075 ≤ floorLog2 x.ratio.1 x.ratio.2 := by
  have hden : x.ratio.2.log2 ≤ 1074 := by
    unfold ratio
    split
    · exact Nat.zero_le _
    · rw [Nat.one_shiftLeft, Nat.log2_two_pow]
      unfold minExponent at hx
      omega
  simp only [floorLog2]
  split <;> omega

/-- The search for the place of a number starts below it. -/
theorem zpow_start_le (hx : x.mantissa ≠ 0) (hexp : minExponent ≤ x.exponent) :
    (10 : ℚ) ^ (floorLog2 x.ratio.1 x.ratio.2 * 3 / 10 - 2) ≤ (x.ratio.1 : ℚ) / x.ratio.2 :=
  (ten_zpow_le_two_zpow (floorLog2_ratio_ge hexp)).trans
    (zpow_floorLog2_le (ratio_pos hx).1 (ratio_pos hx).2)

theorem units_ne_zero (hx : x.mantissa ≠ 0) {scale : ℤ}
    (hle : (10 : ℚ) ^ scale ≤ (x.ratio.1 : ℚ) / x.ratio.2) : (x.units scale).1 ≠ 0 := by
  obtain ⟨-, hden⟩ := ratio_pos hx
  have hfits := (le_ratio_iff x.ratio.1 (b := 10) (by decide) hden scale).mpr (by exact_mod_cast hle)
  simp only [units]
  split at hfits
  · next h =>
    rw [if_pos h]
    exact (Nat.div_pos hfits (by positivity)).ne'
  · next h =>
    rw [if_neg h]
    exact (Nat.div_pos hfits hden).ne'

theorem roundsFrom_zero (hx : x.mantissa ≠ 0) (scale : ℤ) : x.roundsFrom 0 scale = false := by
  have hlow : 0 < (4 * x.mantissa - if x.mantissa = 1 <<< 52 ∧ minExponent < x.exponent then 1 else 2) *
      (if 0 ≤ x.exponent - 2 then 1 <<< (x.exponent - 2).toNat else 1) *
      (if 0 ≤ scale then 1 else Nat.pow 10 (-scale).toNat) := by
    refine Nat.mul_pos (Nat.mul_pos ?_ ?_) ?_
    · split <;> omega
    · split
      · rw [Nat.shiftLeft_eq]
        positivity
      · exact Nat.one_pos
    · split
      · exact Nat.one_pos
      · exact Nat.pow_pos (by decide)
  simp only [roundsFrom, zero_mul]
  split
  · rw [decide_eq_false (Nat.not_le.mpr hlow), Bool.false_and]
  · rw [decide_eq_false (Nat.not_lt_zero _), Bool.false_and]

theorem hit?_ne_zero (hx : x.mantissa ≠ 0) {scale : ℤ} {digits : ℕ} (hhit : x.hit? scale = some digits) :
    digits ≠ 0 := by
  rintro rfl
  have hzero := roundsFrom_zero hx scale
  rcases hunits : x.units scale with ⟨below, rest, unit⟩
  simp only [hit?, hunits] at hhit
  have hbelow : x.roundsFrom below scale = true → below ≠ 0 := by
    rintro hround rfl
    cases hzero.symm.trans hround
  split at hhit
  · next hlow _ =>
    repeat' split at hhit
    all_goals first
      | exact hbelow hlow (Option.some.inj hhit)
      | exact Nat.succ_ne_zero _ (Option.some.inj hhit)
  · next hlow _ => exact hbelow hlow (Option.some.inj hhit)
  · exact Nat.succ_ne_zero _ (Option.some.inj hhit)
  · cases hhit

theorem firstHit_ne_zero (hx : x.mantissa ≠ 0) {top : ℤ} {more count : ℕ}
    (hfinest : (x.units (top - (count + more : ℕ))).1 ≠ 0) : (x.firstHit top more count).1 ≠ 0 := by
  induction more generalizing count with
  | zero => exact hfinest
  | succ more ih =>
    rw [firstHit]
    split
    · next digits hhit => exact hit?_ne_zero hx hhit
    · exact ih (by rwa [Nat.add_right_comm])

theorem dropZeros_ne_zero (steps : ℕ) {digits : ℕ} (scale : ℤ) (h : digits ≠ 0) :
    (dropZeros steps digits scale).1 ≠ 0 := by
  induction steps generalizing digits scale with
  | zero => exact h
  | succ steps ih =>
    rw [dropZeros]
    split
    · exact ih _ (by omega)
    · exact h

theorem shortest_ne_zero (hx : x.isZero = false) (hfinite : x.IsFinite) : x.shortest.1 ≠ 0 := by
  have hmantissa : x.mantissa ≠ 0 := by simpa [isZero] using hx
  have htop := zpow_floorLog10_le (ratio_pos hmantissa).2 40 (zpow_start_le hmantissa hfinite.exponent.1)
  have hshortest : ∃ top steps scale, (10 : ℚ) ^ top ≤ (x.ratio.1 : ℚ) / x.ratio.2 ∧
      x.shortest = dropZeros steps (x.firstHit top 17 0).1 scale := ⟨_, 20, _, htop, rfl⟩
  obtain ⟨top, steps, scale, htop, hshortest⟩ := hshortest
  rw [hshortest]
  refine dropZeros_ne_zero steps scale (firstHit_ne_zero hmantissa (units_ne_zero hmantissa ?_))
  exact (zpow_le_zpow_right₀ (by norm_num) (by omega)).trans htop

end

end Binary64

end Sentinel.Decimal
