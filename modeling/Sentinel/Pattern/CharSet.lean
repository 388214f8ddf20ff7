import Sentinel.Unicode.Class
/-!
# Sets of characters

The sets that a pattern is built from: ranges and what unions, intersections, complements and the
disregard of case make of them.

1. `mem_negate`, `mem_union`, `mem_inter`, `mem_diff`, `mem_symmDiff`: the operations are those of
   sets.
-/

namespace Sentinel.Pattern

inductive CharSet where
  | ranges (rs : Unicode.Ranges)
  | negate (s : CharSet)
  | union (s t : CharSet)
  | inter (s t : CharSet)
  | anyCase (s : CharSet)
  | anyAsciiCase (s : CharSet)
deriving DecidableEq, Repr

namespace CharSet

def holds : CharSet → Nat → Bool
  | ranges rs, n => rs.holds n
  | negate s, n => !s.holds n
  | union s t, n => s.holds n || t.holds n
  | inter s t, n => s.holds n && t.holds n
  | anyCase s, n => (Unicode.caseVariants n).any s.holds
  | anyAsciiCase s, n => (Unicode.asciiCaseVariants n).any s.holds

def mem (s : CharSet) (c : Char) : Bool := s.holds c.toNat

def none : CharSet := ranges []

def all : CharSet := ranges [(0, 0x10FFFF)]

def single (c : Char) : CharSet := ranges [(c.toNat, c.toNat)]

def between (lo hi : Char) : CharSet := ranges [(lo.toNat, hi.toNat)]

def diff (s t : CharSet) : CharSet := inter s (negate t)

def symmDiff (s t : CharSet) : CharSet := union (diff s t) (diff t s)

/-- The complement, where it is asked for. -/
def negateIf (negated : Bool) (s : CharSet) : CharSet := if negated then negate s else s

def unions (ss : List CharSet) : CharSet := ss.foldl union none

/-- Whether no member lies among the code points from 128 to 255, the upper half of the bytes. -/
def isAscii (s : CharSet) : Bool := (List.range 128).all fun n => !s.holds (n + 128)

theorem mem_negate (s : CharSet) (c : Char) : (negate s).mem c = !s.mem c := rfl

theorem mem_union (s t : CharSet) (c : Char) : (union s t).mem c = (s.mem c || t.mem c) := rfl

theorem mem_inter (s t : CharSet) (c : Char) : (inter s t).mem c = (s.mem c && t.mem c) := rfl

theorem mem_diff (s t : CharSet) (c : Char) : (diff s t).mem c = (s.mem c && !t.mem c) := rfl

theorem mem_symmDiff (s t : CharSet) (c : Char) : (symmDiff s t).mem c = (s.mem c ^^ t.mem c) := by
  simp only [symmDiff, mem_union, mem_diff]
  cases s.mem c <;> cases t.mem c <;> rfl

end CharSet

end Sentinel.Pattern
