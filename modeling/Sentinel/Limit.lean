/-!
# Limits

A limit is an integer: minus one admits everything, another negative number nothing, and any other
number whatever does not exceed it.

Correspondence (operation of the component ↔ definition):
  `check_length` ↔ `withinLimit`
-/

namespace Sentinel

/-- Whether a value of some length passes a limit. -/
def withinLimit (length : Nat) (limit : Int) : Bool :=
  if limit = -1 then true else decide ((length : Int) ≤ limit)

theorem withinLimit_unlimited (length : Nat) : withinLimit length (-1) = true := rfl

theorem withinLimit_iff (length : Nat) (limit : Int) :
    withinLimit length limit = true ↔ limit = -1 ∨ (length : Int) ≤ limit := by
  by_cases h : limit = -1 <;> simp [withinLimit, h]

end Sentinel
