import Sentinel.Text.Numeral
import Sentinel.Text.Split
/-!
# Ranges of code points

Sets of characters as ranges of code points, the tables they are read from, and the loose
comparison of names: case, blanks, hyphens, underscores and a leading "is" make no difference.
-/

namespace Sentinel.Unicode

/-- A set of characters, as ranges of code points with both ends included. -/
abbrev Ranges := List (Nat × Nat)

def Ranges.holds (rs : Ranges) (n : Nat) : Bool := rs.any fun r => r.1 ≤ n && n ≤ r.2

def words (cs : List Char) : List (List Char) :=
  (Text.pieces ' ' (cs.map fun c => if c = '\n' then ' ' else c)).filter (!·.isEmpty)

/-- A range that is written as one code point or as two with a hyphen between them. -/
def readRange (word : List Char) : Nat × Nat :=
  match (Text.pieces '-' word).map fun cs => (Text.hexValue? cs).getD 0 with
  | [n] => (n, n)
  | lo :: hi :: _ => (lo, hi)
  | [] => (0, 0)

/-- A letter of a name in lower case; blanks, hyphens, underscores and characters beyond ASCII do
not count. -/
def looseChars (cs : List Char) : List Char :=
  (cs.filter fun c => c ≠ ' ' ∧ c ≠ '-' ∧ c ≠ '_' ∧ c.toNat < 128).map Char.toLower

/-- A name for loose comparison. A leading "is" is dropped, except where a single "c" would remain,
which would name something else. -/
def looseName (cs : List Char) : List Char :=
  match cs with
  | i :: s :: rest =>
    if i.toLower = 'i' ∧ s.toLower = 's' then
      let name := looseChars rest
      if name = ['c'] then ['i', 's', 'c'] else name
    else looseChars cs
  | _ => looseChars cs

/-- The names and the ranges of an entry of a table. -/
def readEntry (entry : List Char) : List (List Char) × List Char :=
  match Text.pieces ':' entry with
  | names :: ranges :: _ => (words names, ranges)
  | _ => ([], [])

/-- The ranges of the entry with a name, compared loosely. -/
def find? (table : String) (name : List Char) : Option Ranges :=
  ((Text.pieces ';' table.toList).map readEntry).findSome? fun (names, ranges) =>
    if (names.map looseName).contains name then some ((words ranges).map readRange) else none

def entries (table : String) : List (List (List Char) × Ranges) :=
  ((Text.pieces ';' table.toList).map readEntry).filterMap fun (names, ranges) =>
    if names.isEmpty then none else some (names.map looseName, (words ranges).map readRange)

end Sentinel.Unicode
