import Sentinel.Decimal.Binary64
import Sentinel.Text.Numeral
/-!
# The shortest decimal that reads back

The fewest decimal digits that single out a binary number among its neighbours, and of those the
nearest, and their layout as text.
-/

namespace Sentinel.Decimal

namespace Binary64

/-- Whether `digits · 10 ^ scale` rounds to the magnitude of `x`: it lies between the midpoints to
the neighbours, the midpoints included where the mantissa is even. -/
def roundsFrom (x : Binary64) (digits : Nat) (scale : Int) : Bool :=
  -- Quarters of the last place: the interval around `4 * mantissa` in units of `2 ^ (exponent - 2)`.
  let down := if x.mantissa = 1 <<< 52 ∧ minExponent < x.exponent then 1 else 2
  let lo := 4 * x.mantissa - down
  let hi := 4 * x.mantissa + 2
  let e := x.exponent - 2
  let twoUp := if 0 ≤ e then 1 <<< e.toNat else 1
  let twoDown := if 0 ≤ e then 1 else 1 <<< (-e).toNat
  let tenUp := if 0 ≤ scale then Nat.pow 10 scale.toNat else 1
  let tenDown := if 0 ≤ scale then 1 else Nat.pow 10 (-scale).toNat
  let d := digits * tenUp * twoDown
  let l := lo * twoUp * tenDown
  let h := hi * twoUp * tenDown
  if x.mantissa % 2 = 0 then l ≤ d && d ≤ h else l < d && d < h

/-- The greatest `k` with `10 ^ k ≤ num / den`, searched upward from a start that is too low. -/
def floorLog10 (num den : Nat) : Nat → Int → Int
  | 0, k => k
  | steps + 1, k =>
    let next := k + 1
    let fits :=
      if 0 ≤ next then den * Nat.pow 10 next.toNat ≤ num
      else den ≤ num * Nat.pow 10 (-next).toNat
    if fits then floorLog10 num den steps next else k

/-- The magnitude in units of `10 ^ scale`: the whole units, the remainder and its divisor. -/
def units (x : Binary64) (scale : Int) : Nat × Nat × Nat :=
  let (num, den) := x.ratio
  let (n, d) :=
    if 0 ≤ scale then (num, den * Nat.pow 10 scale.toNat) else (num * Nat.pow 10 (-scale).toNat, den)
  (n / d, n % d, d)

/-- The nearest multiple of `10 ^ scale` that reads back as `x`, if the grid has one. -/
def hit? (x : Binary64) (scale : Int) : Option Nat :=
  let (below, rest, unit) := x.units scale
  let low := x.roundsFrom below scale
  let high := x.roundsFrom (below + 1) scale
  match low, high with
  | true, true =>
    if 2 * rest < unit then some below
    else if unit < 2 * rest then some (below + 1)
    else if below % 2 = 0 then some below else some (below + 1)
  | true, false => some below
  | false, true => some (below + 1)
  | false, false => none

/-- The first grid with a hit, from coarse to fine: the digits and their power of ten. -/
def firstHit (x : Binary64) (top : Int) : Nat → Nat → Nat × Int
  | 0, count => ((x.units (top - count)).1, top - count)
  | more + 1, count =>
    match x.hit? (top - count) with
    | some digits => (digits, top - count)
    | none => firstHit x top more (count + 1)

/-- Moves the zeros at the end of the digits into the power of ten. -/
def dropZeros : Nat → Nat → Int → Nat × Int
  | 0, digits, scale => (digits, scale)
  | steps + 1, digits, scale =>
    if digits ≠ 0 ∧ digits % 10 = 0 then dropZeros steps (digits / 10) (scale + 1) else (digits, scale)

/-- The shortest digits of a number other than zero and the power of ten they are counted in. -/
def shortest (x : Binary64) : Nat × Int :=
  let (num, den) := x.ratio
  let start := (floorLog2 num den * 3) / 10 - 2
  let top := floorLog10 num den 40 start
  let (digits, scale) := x.firstHit top 17 0
  dropZeros 20 digits scale

/-- The text of a number: positional from `1e-5` up to below `1e16`, with an exponent and its sign
outside that range, and always with a fraction in positional notation. -/
def text (x : Binary64) : List Char :=
  let sign := if x.negative then ['-'] else []
  if x.isZero then sign ++ "0.0".toList
  else
    let (digits, scale) := x.shortest
    let ds := Text.decimal digits
    let point : Int := ds.length + scale
    if 0 ≤ scale ∧ point ≤ 16 then
      sign ++ ds ++ List.replicate scale.toNat '0' ++ ".0".toList
    else if 0 < point ∧ point ≤ 16 then
      sign ++ ds.take point.toNat ++ '.' :: ds.drop point.toNat
    else if -5 < point ∧ point ≤ 0 then
      sign ++ "0.".toList ++ List.replicate (-point).toNat '0' ++ ds
    else
      let e := point - 1
      let fraction := if ds.length = 1 then [] else '.' :: ds.drop 1
      sign ++ ds.take 1 ++ fraction ++ 'e' :: (if e < 0 then '-' else '+') :: Text.decimal e.natAbs

end Binary64

end Sentinel.Decimal
