/-!
# Finite binary numbers of 64 bits

A finite number of the 64-bit binary format as sign, mantissa and exponent, and the rounding of
an exact ratio to it: to the nearest such number, a tie to the even mantissa. Everything is exact
arithmetic on natural numbers.
-/

namespace Sentinel.Decimal

/-- The number `± mantissa · 2 ^ exponent`. -/
structure Binary64 where
  negative : Bool
  mantissa : Nat
  exponent : Int
deriving DecidableEq, Repr

namespace Binary64

/-- The exponent of the smallest numbers. -/
def minExponent : Int := -1074

/-- The exponent of the largest numbers. -/
def maxExponent : Int := 971

/-- The quotient rounded to the nearest integer, a tie to the even one. -/
def roundedQuotient (num den : Nat) : Nat :=
  let q := num / den
  let r := num % den
  if 2 * r < den then q
  else if den < 2 * r then q + 1
  else if q % 2 = 0 then q else q + 1

/-- The greatest `k` with `2 ^ k ≤ num / den`, for positive `num` and `den`. -/
def floorLog2 (num den : Nat) : Int :=
  let k : Int := (num.log2 : Int) - den.log2
  let fits := if 0 ≤ k then den <<< k.toNat ≤ num else den ≤ num <<< (-k).toNat
  if fits then k else k - 1

/-- The magnitude nearest to `num / den`, absent where it is too large. -/
def nearest? (num den : Nat) : Option (Nat × Int) :=
  if num = 0 then some (0, minExponent)
  else
    let e := max (floorLog2 num den - 52) minExponent
    let m :=
      if 0 ≤ e then roundedQuotient num (den <<< e.toNat)
      else roundedQuotient (num <<< (-e).toNat) den
    let (m, e) := if m = 1 <<< 53 then (1 <<< 52, e + 1) else (m, e)
    if maxExponent < e then none else some (m, e)

/-- The nearest number to `num / den` with the given sign. -/
def ofRatio? (negative : Bool) (num den : Nat) : Option Binary64 :=
  (nearest? num den).map fun (m, e) => ⟨negative, m, e⟩

/-- The magnitude as an exact ratio. -/
def ratio (x : Binary64) : Nat × Nat :=
  if 0 ≤ x.exponent then (x.mantissa <<< x.exponent.toNat, 1)
  else (x.mantissa, 1 <<< (-x.exponent).toNat)

/-- The product rounded to the format. -/
def mul? (x y : Binary64) : Option Binary64 :=
  ofRatio? (x.negative != y.negative) (x.ratio.1 * y.ratio.1) (x.ratio.2 * y.ratio.2)

/-- The quotient by a number other than zero, rounded to the format. -/
def div? (x y : Binary64) : Option Binary64 :=
  ofRatio? (x.negative != y.negative) (x.ratio.1 * y.ratio.2) (x.ratio.2 * y.ratio.1)

def ofNat? (n : Nat) : Option Binary64 := ofRatio? false n 1

/-- The nearest number to a power of ten. -/
def pow10? (k : Nat) : Option Binary64 := ofNat? (Nat.pow 10 k)

def isZero (x : Binary64) : Bool := x.mantissa == 0

def withSign (x : Binary64) (negative : Bool) : Binary64 := { x with negative }

/-- A significand scaled down by a power of ten, at most 308 places at a time. -/
def scaleDown? (x : Binary64) (places : Nat) : Option Binary64 :=
  if x.isZero then some x
  else if places ≤ 308 then do x.div? (← pow10? places)
  else do
    match x.div? (← pow10? 308) with
    | none => none
    | some y => y.scaleDown? (places - 308)
termination_by places

/-- The number that a decimal significand of 64 bits and a power of ten stand for. The
significand is rounded first and then scaled, so the result can be one step beside the nearest. -/
def ofDecimal? (negative : Bool) (significand : Nat) (exponent : Int) : Option Binary64 := do
  let s ← ofNat? significand
  let x ←
    if s.isZero then some s
    else if 0 ≤ exponent then
      if exponent ≤ 308 then do s.mul? (← pow10? exponent.toNat) else none
    else s.scaleDown? (-exponent).toNat
  pure (x.withSign negative)

end Binary64

end Sentinel.Decimal
