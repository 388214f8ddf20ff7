import Sentinel.Pattern.CharSet
/-!
# Terms of the pattern language

The syntax of a pattern as it is written, before flags are applied: what a group, a bracket or a
repetition holds, and which flags are switched where.
-/

namespace Sentinel.Pattern

/-- The switches of a flag group; `none` leaves a flag as it is. -/
structure FlagChange where
  anyCase : Option Bool := none
  multiLine : Option Bool := none
  dotAll : Option Bool := none
  swapGreed : Option Bool := none
  unicode : Option Bool := none
  carriageReturn : Option Bool := none
  extended : Option Bool := none
deriving DecidableEq, Repr

/-- A place of zero width. -/
inductive Assertion where
  | lineStart
  | lineEnd
  | textStart
  | textEnd
  | wordBoundary
  | notWordBoundary
  | wordStart
  | wordEnd
  | wordStartHalf
  | wordEndHalf
deriving DecidableEq, Repr

/-- The classes with an escape of one letter. -/
inductive Shorthand where
  | digit
  | space
  | word
deriving DecidableEq, Repr

/-- A property of characters, by name or as a property with a value. -/
inductive PropertyQuery where
  | named (name : List Char)
  | valued (property value : List Char)
deriving DecidableEq, Repr

/-- A single character. `fromByte` marks the two-digit hexadecimal form, which names a byte where
characters are bytes. -/
structure Literal where
  char : Char
  fromByte : Bool := false
deriving DecidableEq, Repr

/-- The operations between the sets of a bracket. -/
inductive SetOperation where
  | intersection
  | difference
  | symmetricDifference
deriving DecidableEq, Repr

inductive ClassTerm where
  | range (lo hi : Literal)
  | named (set : CharSet) (negated : Bool)
  | shorthand (kind : Shorthand) (negated : Bool)
  | property (query : PropertyQuery) (negated : Bool)
  | bracket (negated : Bool) (body : ClassTerm)
  | union (items : List ClassTerm)
  | operation (op : SetOperation) (lhs rhs : ClassTerm)
deriving Repr

inductive Term where
  | empty
  | flags (change : FlagChange)
  | literal (l : Literal)
  | dot
  | assertion (a : Assertion)
  | shorthand (kind : Shorthand) (negated : Bool)
  | property (query : PropertyQuery) (negated : Bool)
  | bracket (negated : Bool) (body : ClassTerm)
  | repetition (body : Term) (min : Nat) (max : Option Nat)
  | group (change : FlagChange) (body : Term)
  | sequence (items : List Term)
  | choice (items : List Term)
deriving Repr

namespace ClassTerm

mutual

/-- How deep brackets, unions and operations are nested. -/
def nesting : ClassTerm → Nat
  | range .. | named .. | shorthand .. | property .. => 0
  | bracket _ body => body.nesting + 1
  | union items => nestings items + 1
  | operation _ lhs rhs => max lhs.nesting rhs.nesting + 1

def nestings : List ClassTerm → Nat
  | [] => 0
  | t :: ts => max t.nesting (nestings ts)

end

/-- The union of items; a single item stands for itself. -/
def ofItems : List ClassTerm → ClassTerm
  | [t] => t
  | ts => union ts

end ClassTerm

namespace Term

/-- Terms one behind the other; a single one stands for itself. -/
def ofSequence : List Term → Term
  | [] => empty
  | [t] => t
  | ts => sequence ts

/-- Terms to choose from; a single one stands for itself. -/
def ofChoice : List Term → Term
  | [t] => t
  | ts => choice ts

mutual

/-- How deep groups, repetitions, brackets, sequences and choices are nested. -/
def nesting : Term → Nat
  | empty | flags _ | literal _ | dot | assertion _ | shorthand .. | property .. => 0
  | bracket _ body => body.nesting + 1
  | repetition body _ _ => body.nesting + 1
  | group _ body => body.nesting + 1
  | sequence items => nestings items + 1
  | choice items => nestings items + 1

def nestings : List Term → Nat
  | [] => 0
  | t :: ts => max t.nesting (nestings ts)

end

end Term

end Sentinel.Pattern
