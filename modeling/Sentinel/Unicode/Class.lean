import Sentinel.Unicode.Ranges
import Sentinel.Unicode.Category
import Sentinel.Unicode.Flag
import Sentinel.Unicode.CaseVariant
/-!
# Classes of characters

The classes that patterns and messages use: digits, word characters, letters, printable
characters, characters that extend the one before them, and the case variants of a letter.
-/

namespace Sentinel.Unicode

def category (name : String) : Ranges := (find? categoryTable (looseName name.toList)).getD []

def flag (name : String) : Ranges := (find? flagTable (looseName name.toList)).getD []

def digitRanges : Ranges := category "Nd"

/-- Letters and what stands for letters. -/
def alphabeticRanges : Ranges := flag "Alphabetic"

def numberRanges : Ranges := category "Nd" ++ category "Nl" ++ category "No"

/-- The characters of words: alphabetic ones, marks, decimal digits, connectors and joiners. -/
def wordRanges : Ranges :=
  alphabeticRanges ++ digitRanges ++ category "Pc" ++ flag "Join_Control" ++
    category "Mn" ++ category "Mc" ++ category "Me"

/-- The categories whose characters have a visible form. -/
def visibleRanges : Ranges :=
  (entries categoryTable).flatMap fun (names, ranges) =>
    if names.any fun n => n.head? = some 'z' ∨ n = ['c', 'c'] ∨ n = ['c', 'f'] ∨ n = ['c', 'o'] then []
    else ranges

/-- The characters that extend the one before them. -/
def extendingRanges : Ranges := flag "Grapheme_Extend"

def isAlphabetic (c : Char) : Bool := c.isAlpha || (128 ≤ c.toNat && alphabeticRanges.holds c.toNat)

def isAlphanumeric (c : Char) : Bool :=
  isAlphabetic c || c.isDigit || (128 ≤ c.toNat && numberRanges.holds c.toNat)

def isWord (c : Char) : Bool := wordRanges.holds c.toNat

/-- Whether a character is the blank or has a visible form. -/
def isPrintable (c : Char) : Bool :=
  if c.toNat < 128 then 32 ≤ c.toNat && c.toNat < 127 else visibleRanges.holds c.toNat

def isExtending (c : Char) : Bool := 128 ≤ c.toNat && extendingRanges.holds c.toNat

/-- The sets of code points that differ in case only. -/
def caseSets : List (List Nat) :=
  (Text.pieces ';' caseTable.toList).map fun entry => (words entry).map fun cs => (Text.hexValue? cs).getD 0

/-- The code points that differ from a code point in case only, itself included. -/
def caseVariants (n : Nat) : List Nat := (caseSets.find? (·.contains n)).getD [n]

/-- The code points that differ from a code point in the case of an ASCII letter only, itself
included. -/
def asciiCaseVariants (n : Nat) : List Nat :=
  if 65 ≤ n ∧ n ≤ 90 then [n, n + 32] else if 97 ≤ n ∧ n ≤ 122 then [n, n - 32] else [n]

end Sentinel.Unicode
