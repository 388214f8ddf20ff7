import Sentinel.Text.Blank
/-!
# Decimal and hexadecimal numerals

Numerals as they stand in parameters, paths and records: a natural number in decimal, an integer
with an optional sign, and fixed groups of digits.

1. `value_decimal`: a written number reads back.
-/

namespace Sentinel.Text

/-- The decimal digits of a number, most significant first. -/
def decimal (n : Nat) : List Char :=
  if n < 10 then [n.digitChar] else decimal (n / 10) ++ [(n % 10).digitChar]

/-- The decimal digits of an integer, with a minus sign in front of a negative one. -/
def signedDecimal (i : Int) : List Char :=
  if i < 0 then '-' :: decimal i.natAbs else decimal i.natAbs

def natText (n : Nat) : String := String.ofList (decimal n)

def intText (i : Int) : String := String.ofList (signedDecimal i)

/-- The digits of a number, filled with zeros on the left up to a width. -/
def padded (width n : Nat) : List Char :=
  List.replicate (width - (decimal n).length) '0' ++ decimal n

def digitValue (c : Char) : Nat := c.toNat - '0'.toNat

def value (digits : List Char) : Nat :=
  digits.foldl (fun n c => 10 * n + digitValue c) 0

/-- The number that a numeral stands for: one or more decimal digits and nothing else. -/
def numeral? (cs : List Char) : Option Nat :=
  if cs.isEmpty || !cs.all Char.isDigit then none else some (value cs)

/-- The integer that a numeral with an optional sign stands for. -/
def signedNumeral? : List Char → Option Int
  | '-' :: cs => (numeral? cs).map fun n => -(n : Int)
  | '+' :: cs => (numeral? cs).map fun n => (n : Int)
  | cs => (numeral? cs).map fun n => (n : Int)

def hexDigitValue? (c : Char) : Option Nat :=
  if c.isDigit then some (digitValue c)
  else if 'a' ≤ c ∧ c ≤ 'f' then some (c.toNat - 'a'.toNat + 10)
  else if 'A' ≤ c ∧ c ≤ 'F' then some (c.toNat - 'A'.toNat + 10)
  else none

def hexValue? (cs : List Char) : Option Nat :=
  cs.foldl (fun n? c => do let n ← n?; let d ← hexDigitValue? c; pure (16 * n + d)) (some 0)

/-- The lowest `width` hexadecimal digits of a number, in lower case. -/
def hexDigits : Nat → Nat → List Char
  | 0, _ => []
  | width + 1, n => hexDigits width (n / 16) ++ [(n % 16).digitChar]

theorem digitChar_isDigit {n : Nat} (h : n < 10) : n.digitChar.isDigit = true := by
  simp [Nat.isDigit_digitChar, h]

theorem decimal_ne_nil (n : Nat) : decimal n ≠ [] := by
  rw [decimal]; split <;> simp

theorem all_isDigit_decimal (n : Nat) : (decimal n).all Char.isDigit = true := by
  induction n using Nat.strongRecOn with
  | _ n ih =>
    rw [decimal]
    split
    · simp [*]
    · have := ih (n / 10) (by omega)
      simp [this, digitChar_isDigit (Nat.mod_lt n (by omega : 0 < 10))]

theorem value_append_singleton (cs : List Char) (c : Char) :
    value (cs ++ [c]) = 10 * value cs + digitValue c := by
  simp [value]

theorem value_decimal (n : Nat) : value (decimal n) = n := by
  induction n using Nat.strongRecOn with
  | _ n ih =>
    rw [decimal]
    split
    · rename_i h
      simp [value, digitValue, Nat.toNat_digitChar_of_lt_ten h]
    · rw [value_append_singleton, ih (n / 10) (by omega)]
      simp only [digitValue, Nat.toNat_digitChar_of_lt_ten (Nat.mod_lt n (by omega : 0 < 10))]
      simp
      omega

theorem numeral?_decimal (n : Nat) : numeral? (decimal n) = some n := by
  simp [numeral?, decimal_ne_nil, all_isDigit_decimal, value_decimal]

end Sentinel.Text
