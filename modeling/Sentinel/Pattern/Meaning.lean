import Sentinel.Pattern.Expression
import Sentinel.Pattern.Property
import Sentinel.Pattern.Reader
/-!
# The meaning of terms

From the term of a pattern to its expression. Flags hold from where they are switched to the end of
the group, alternatives included; a group switches them for itself only. Where characters are bytes
a set must not reach beyond ASCII, so a pattern never matches part of a character.
-/

namespace Sentinel.Pattern

/-- The flags that hold at a point of a pattern. -/
structure Mode where
  anyCase : Bool := false
  multiLine : Bool := false
  dotAll : Bool := false
  unicode : Bool := true
  carriageReturn : Bool := false
deriving DecidableEq, Repr

namespace Mode

/-- The flags after a switch. -/
def switch (m : Mode) (change : FlagChange) : Mode where
  anyCase := change.anyCase.getD m.anyCase
  multiLine := change.multiLine.getD m.multiLine
  dotAll := change.dotAll.getD m.dotAll
  unicode := change.unicode.getD m.unicode
  carriageReturn := change.carriageReturn.getD m.carriageReturn

/-- A set with the case variants of its members, where case makes no difference. -/
def fold (m : Mode) (s : CharSet) : CharSet :=
  if m.anyCase then (if m.unicode then .anyCase s else .anyAsciiCase s) else s

/-- A set that is admitted: bytes must be ASCII. -/
def admit? (m : Mode) (s : CharSet) : Option CharSet :=
  if m.unicode || s.isAscii then some s else none

/-- A set, folded and then negated where that is asked for. -/
def foldAndNegate? (m : Mode) (negated : Bool) (s : CharSet) : Option CharSet :=
  m.admit? (.negateIf negated (m.fold s))

/-- The condition on spots that an assertion stands for. -/
def place (m : Mode) : Assertion → Place
  | .lineStart => if m.multiLine then .lineStart m.carriageReturn else .textStart
  | .lineEnd => if m.multiLine then .lineEnd m.carriageReturn else .textEnd
  | .textStart => .textStart
  | .textEnd => .textEnd
  | .wordBoundary => .wordBoundary m.unicode
  | .notWordBoundary => .notWordBoundary m.unicode
  | .wordStart => .wordStart m.unicode
  | .wordEnd => .wordEnd m.unicode
  | .wordStartHalf => .wordStartHalf m.unicode
  | .wordEndHalf => .wordEndHalf m.unicode

def dot (m : Mode) : CharSet :=
  if m.dotAll then .all
  else if m.carriageReturn then .negate (.ranges [(10, 10), (13, 13)])
  else .negate (.ranges [(10, 10)])

/-- The characters of a class with an escape of one letter. -/
def shorthand (m : Mode) : Shorthand → CharSet
  | .digit => .ranges (if m.unicode then Unicode.digitRanges else [(48, 57)])
  | .space => .ranges (if m.unicode then Unicode.flag "White_Space" else [(9, 13), (32, 32)])
  | .word => .ranges (if m.unicode then Unicode.wordRanges else [(48, 57), (65, 90), (95, 95), (97, 122)])

/-- Whether a literal may stand outside of brackets: a byte must be an ASCII character. -/
def admitsLiteral (m : Mode) (l : Literal) : Bool := m.unicode || !l.fromByte || l.char.toNat < 128

/-- Whether a literal may stand in a bracket. -/
def admitsMember (m : Mode) (l : Literal) : Bool := m.unicode || l.char.toNat < 128

mutual

def members? (m : Mode) : ClassTerm → Option CharSet
  | .range lo hi =>
    if m.admitsMember lo && m.admitsMember hi then some (.between lo.char hi.char) else none
  | .named set negated => m.foldAndNegate? negated set
  | .shorthand kind negated => m.admit? (.negateIf negated (m.shorthand kind))
  | .property query negated => if m.unicode then query.set?.bind (m.foldAndNegate? negated) else none
  | .bracket negated body => do m.foldAndNegate? negated (← m.members? body)
  | .union items => (m.memberLists? items).map .unions
  | .operation op lhs rhs => do
    let s := m.fold (← m.members? lhs)
    let t := m.fold (← m.members? rhs)
    return match op with
      | .intersection => .inter s t
      | .difference => .diff s t
      | .symmetricDifference => .symmDiff s t

def memberLists? (m : Mode) : List ClassTerm → Option (List CharSet)
  | [] => some []
  | t :: ts => do return (← m.members? t) :: (← m.memberLists? ts)

end

end Mode

namespace Term

mutual

/-- The expression of a term under some flags, and the flags that hold behind it. -/
def meaning? (m : Mode) : Term → Option (Expression × Mode)
  | .empty => some (.blank, m)
  | .flags change => some (.blank, m.switch change)
  | .literal l => if m.admitsLiteral l then some (.chars (m.fold (.single l.char)), m) else none
  | .dot => if m.unicode then some (.chars m.dot, m) else none
  | .assertion a => some (.place (m.place a), m)
  | .shorthand kind negated => (m.admit? (.negateIf negated (m.shorthand kind))).map fun s => (.chars s, m)
  | .property query negated =>
    if m.unicode then (query.set?.bind (m.foldAndNegate? negated)).map fun s => (.chars s, m) else none
  | .bracket negated body => do return (.chars (← m.foldAndNegate? negated (← m.members? body)), m)
  | .repetition body min max => do
    let (e, m) ← body.meaning? m
    return (.repeated e min max, m)
  | .group change body => do
    let (e, _) ← body.meaning? (m.switch change)
    return (e, m)
  | .sequence items => do
    let (es, m) ← meanings? m items
    return (.concats es, m)
  | .choice items => do
    let (es, m) ← meanings? m items
    return (.eithers es, m)

/-- The expressions of terms one behind the other, each under the flags that the one before it
leaves. -/
def meanings? (m : Mode) : List Term → Option (List Expression × Mode)
  | [] => some ([], m)
  | t :: ts => do
    let (e, m) ← t.meaning? m
    let (es, m) ← meanings? m ts
    return (e :: es, m)

end

end Term

/-- The expression of a pattern, absent where the pattern breaks a rule. -/
def Expression.ofText? (text : List Char) : Option Expression := do
  let term ← Term.parse? text
  let (e, _) ← term.meaning? {}
  return e

end Sentinel.Pattern
