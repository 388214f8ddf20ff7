import Sentinel.Pattern.CharSet
/-!
# Expressions

What a pattern means: characters and places of zero width, one behind the other, side by side, and
repeated. An expression is matched against a text through its partial derivatives: the expressions
that are left to match when a character has been matched.
-/

namespace Sentinel.Pattern

/-- Where two characters of a text meet, with the characters on both sides if there are any. -/
structure Spot where
  before : Option Char
  after : Option Char
deriving DecidableEq, Repr

/-- A condition on a spot. The flag of a line end says whether a carriage return ends lines too,
that of a word edge whether words have characters beyond ASCII. -/
inductive Place where
  | textStart
  | textEnd
  | lineStart (carriageReturn : Bool)
  | lineEnd (carriageReturn : Bool)
  | wordBoundary (unicode : Bool)
  | notWordBoundary (unicode : Bool)
  | wordStart (unicode : Bool)
  | wordEnd (unicode : Bool)
  | wordStartHalf (unicode : Bool)
  | wordEndHalf (unicode : Bool)
deriving DecidableEq, Repr

def isAsciiWord (c : Char) : Bool := c.isAlphanum || c == '_'

/-- Whether there is a word character on a side. -/
def isWordSide (unicode : Bool) (side : Option Char) : Bool :=
  side.any fun c => if unicode then Unicode.isWord c else isAsciiWord c

/-- Whether a condition holds at a spot. A line does not end inside a carriage return with a line
feed behind it. -/
def Place.holds (s : Spot) : Place → Bool
  | textStart => s.before.isNone
  | textEnd => s.after.isNone
  | lineStart false => s.before.isNone || s.before == some '\n'
  | lineStart true =>
    s.before.isNone || s.before == some '\n' || (s.before == some '\r' && s.after != some '\n')
  | lineEnd false => s.after.isNone || s.after == some '\n'
  | lineEnd true =>
    s.after.isNone || s.after == some '\r' || (s.after == some '\n' && s.before != some '\r')
  | wordBoundary u => isWordSide u s.before != isWordSide u s.after
  | notWordBoundary u => isWordSide u s.before == isWordSide u s.after
  | wordStart u => !isWordSide u s.before && isWordSide u s.after
  | wordEnd u => isWordSide u s.before && !isWordSide u s.after
  | wordStartHalf u => !isWordSide u s.before
  | wordEndHalf u => !isWordSide u s.after

/-- An expression over the characters of a text. -/
inductive Expression where
  | blank
  | chars (s : CharSet)
  | place (p : Place)
  | concat (a b : Expression)
  | either (a b : Expression)
  | repeated (a : Expression) (min : Nat) (max : Option Nat)
deriving DecidableEq, Repr

namespace Expression

/-- Whether nothing but the empty text can match. -/
def isPlace : Expression → Bool
  | blank | place _ => true
  | chars _ => false
  | concat a b | either a b => a.isPlace && b.isPlace
  | repeated a _ max => max = some 0 || a.isPlace

/-- Expressions one behind the other. -/
def concats (es : List Expression) : Expression := es.foldr concat blank

/-- Expressions side by side, of which there is at least one. -/
def eithers : List Expression → Expression
  | [] => blank
  | [e] => e
  | e :: es => either e (eithers es)

/-- Whether the empty text matches at a spot. -/
def allowsEmpty (s : Spot) : Expression → Bool
  | blank => true
  | chars _ => false
  | place p => p.holds s
  | concat a b => a.allowsEmpty s && b.allowsEmpty s
  | either a b => a.allowsEmpty s || b.allowsEmpty s
  | repeated a min _ => min == 0 || a.allowsEmpty s

/-- An expression with another one behind it. -/
def followedBy (a b : Expression) : Expression :=
  match a with
  | blank => b
  | a => concat a b

/-- What is left to match behind a character that stands behind `before`. Empty rounds of a
repetition count toward its minimum, so a round that can be empty here leaves no minimum. -/
def partials (before : Option Char) (c : Char) : Expression → List Expression
  | blank | place _ => []
  | chars s => if s.mem c then [blank] else []
  | concat a b =>
    (a.partials before c).map (·.followedBy b) ++
      (if a.allowsEmpty ⟨before, some c⟩ then b.partials before c else [])
  | either a b => a.partials before c ++ b.partials before c
  | repeated a min max =>
    if max = some 0 then []
    else
      let left := repeated a (if a.allowsEmpty ⟨before, some c⟩ then 0 else min - 1) (max.map (· - 1))
      (a.partials before c).map (·.followedBy left)

/-- Whether an expression matches part of a text; `states` are what is left of the matches that
began earlier, and a match may begin at every spot. -/
def search (e : Expression) (states : List Expression) (before : Option Char) : List Char → Bool
  | [] => (e :: states).any (·.allowsEmpty ⟨before, none⟩)
  | c :: cs =>
    let states := e :: states
    states.any (·.allowsEmpty ⟨before, some c⟩) ||
      search e (states.flatMap (·.partials before c)).eraseDups (some c) cs

/-- Whether an expression matches part of a text, the empty part and the whole included. -/
def matchesWithin (e : Expression) (cs : List Char) : Bool := e.search [] none cs

end Expression

end Sentinel.Pattern
