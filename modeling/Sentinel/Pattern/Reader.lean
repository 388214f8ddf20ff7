import Sentinel.Pattern.Term
import Sentinel.Text.Blank
/-!
# Reading patterns

From the text of a pattern to its term. A text that breaks a rule of the language has no term. In
extended mode blanks and comments between the parts of a pattern are skipped.
-/

namespace Sentinel.Pattern

/-- Where a reader stands: the text that is left, whether blanks and comments are skipped, and the
names of the groups so far. -/
structure Cursor where
  rest : List Char
  extended : Bool
  names : List (List Char)

/-- A reader of part of a pattern; it fails where the text breaks a rule. -/
abbrev Reads (α : Type) := StateT Cursor Option α

namespace Reader

/-- The text behind blanks and comments; a comment ends with its line. -/
def skipped (inComment : Bool) : List Char → List Char
  | [] => []
  | c :: cs =>
    if inComment then skipped (c ≠ '\n') cs
    else if Text.isBlank c then skipped false cs
    else if c = '#' then skipped true cs
    else c :: cs

/-- Goes on behind blanks and comments, in extended mode. -/
def skip : Reads Unit :=
  modify fun k => if k.extended then { k with rest := skipped false k.rest } else k

def peek : Reads (Option Char) := do return (← get).rest.head?

/-- The next character, which must exist. -/
def here : Reads Char := do
  match (← get).rest with
  | c :: _ => return c
  | [] => failure

/-- Goes on by one character. -/
def bump : Reads Unit := modify fun k => { k with rest := k.rest.drop 1 }

/-- Goes on by one character and behind blanks and comments. -/
def advance : Reads Unit := do bump; skip

/-- Goes on behind some characters if they come next. -/
def take? (lead : List Char) : Reads Bool := do
  match Text.dropLead? lead (← get).rest with
  | some rest => modify fun k => { k with rest }; return true
  | none => return false

/-- Fails unless a condition holds. -/
def require (b : Bool) : Reads Unit := if b then pure () else failure

/-- Reads the characters up to a closing brace, which it leaves behind. The reader stands on the
opening brace. -/
def readBraced : Nat → List Char → Reads (List Char)
  | 0, _ => failure
  | fuel + 1, acc => do
    advance
    let c ← here
    if c = '\x7d' then bump; return acc.reverse
    else readBraced fuel (c :: acc)

/-- Reads decimal digits, with blanks and comments between them in extended mode. -/
def readDigits : Nat → List Char → Reads (List Char)
  | 0, _ => failure
  | fuel + 1, acc => do
    match ← peek with
    | some c => if c.isDigit then advance; readDigits fuel (c :: acc) else return acc.reverse
    | none => return acc.reverse

def readCount : Reads Nat := do
  modify fun k => { k with rest := k.rest.dropWhile Text.isBlank }
  let digits ← readDigits ((← get).rest.length + 1) []
  modify fun k => { k with rest := k.rest.dropWhile Text.isBlank }
  skip
  require (!digits.isEmpty)
  let n := Text.value digits
  require (n < UInt32.size)
  return n

/-- The character with a code point given in hexadecimal digits. -/
def charOf? (digits : List Char) : Option Char := do
  guard (!digits.isEmpty)
  let n ← Text.hexValue? digits
  if n < 0xD800 ∨ (0xE000 ≤ n ∧ n < 0x110000) then some (Char.ofNat n) else none

def readHexDigits : Nat → List Char → Reads (List Char)
  | 0, acc => return acc.reverse
  | more + 1, acc => do
    let c ← here
    require (Text.hexDigitValue? c).isSome
    advance
    readHexDigits more (c :: acc)

/-- Reads the code point of a hexadecimal escape. The reader stands on the letter of the escape. -/
def readHex : Reads Literal := do
  let kind ← here
  advance
  if (← here) = '\x7b' then
    let digits ← readBraced ((← get).rest.length + 1) []
    return ⟨← charOf? digits, false⟩
  else
    let width := if kind = 'x' then 2 else if kind = 'u' then 4 else 8
    let digits ← readHexDigits width []
    return ⟨← charOf? digits, kind = 'x'⟩

/-- The text before and after the first occurrence of some characters. -/
def splitFirst? (mark : List Char) : List Char → Option (List Char × List Char)
  | [] => none
  | c :: cs =>
    match Text.dropLead? mark (c :: cs) with
    | some after => some ([], after)
    | none => (splitFirst? mark cs).map fun (before, after) => (c :: before, after)

/-- The query that the braces of a property escape hold. -/
def queryOf (name : List Char) : PropertyQuery :=
  match splitFirst? ['!', '='] name with
  | some (p, v) => .valued p v
  | none =>
    match splitFirst? [':'] name with
    | some (p, v) => .valued p v
    | none =>
      match splitFirst? ['='] name with
      | some (p, v) => .valued p v
      | none => .named name

/-- Reads the query of a property escape. The reader stands on the letter of the escape. -/
def readProperty : Reads Term := do
  let negated := (← here) = 'P'
  advance
  let c ← here
  if c = '\x7b' then
    let name ← readBraced ((← get).rest.length + 1) []
    return .property (queryOf name) negated
  else
    require (c ≠ '\\')
    advance
    return .property (.named [c]) negated

/-- The characters that have a meaning of their own in patterns. -/
def isMeta (c : Char) : Bool := "\\.+*?()|[]\x7b\x7d^$#&-~".toList.contains c

/-- The characters that may be escaped and then stand for themselves. -/
def isEscapable (c : Char) : Bool :=
  isMeta c || (c.toNat < 128 && !c.isAlphanum && c ≠ '<' && c ≠ '>')

def readBoundaryName? : Reads (Option Assertion) := do
  let start ← get
  advance
  let isName (c : Char) : Bool := c.isAlpha || c == '-'
  if !isName (← here) then
    set start
    return none
  else
    set start
    let name ← readBraced (start.rest.length + 1) []
    require (name.all isName)
    match String.ofList name with
    | "start" => return some .wordStart
    | "end" => return some .wordEnd
    | "start-half" => return some .wordStartHalf
    | "end-half" => return some .wordEndHalf
    | _ => failure

/-- Reads an escape. The reader stands on the backslash. -/
def readEscape : Reads Term := do
  bump
  let c ← here
  if c.isDigit then failure
  else if c = 'x' ∨ c = 'u' ∨ c = 'U' then return .literal (← readHex)
  else if c = 'p' ∨ c = 'P' then readProperty
  else
    bump
    match c with
    | 'd' => return .shorthand .digit false
    | 'D' => return .shorthand .digit true
    | 's' => return .shorthand .space false
    | 'S' => return .shorthand .space true
    | 'w' => return .shorthand .word false
    | 'W' => return .shorthand .word true
    | 'a' => return .literal ⟨Char.ofNat 7, false⟩
    | 'f' => return .literal ⟨Char.ofNat 12, false⟩
    | 't' => return .literal ⟨'\t', false⟩
    | 'n' => return .literal ⟨'\n', false⟩
    | 'r' => return .literal ⟨'\r', false⟩
    | 'v' => return .literal ⟨Char.ofNat 11, false⟩
    | 'A' => return .assertion .textStart
    | 'z' => return .assertion .textEnd
    | 'B' => return .assertion .notWordBoundary
    | '<' => return .assertion .wordStart
    | '>' => return .assertion .wordEnd
    | 'b' =>
      if (← peek) = some '\x7b' then
        return .assertion ((← readBoundaryName?).getD .wordBoundary)
      else return .assertion .wordBoundary
    | _ => if isEscapable c then return .literal ⟨c, false⟩ else failure

/-- Reads a character, a place or an escape. -/
def readPrimitive : Reads Term := do
  match ← here with
  | '\\' => readEscape
  | '.' => bump; return .dot
  | '^' => bump; return .assertion .lineStart
  | '$' => bump; return .assertion .lineEnd
  | c => bump; return .literal ⟨c, false⟩

def asciiClass? (name : List Char) : Option CharSet :=
  let digits := (48, 57)
  let uppers := (65, 90)
  let lowers := (97, 122)
  match String.ofList name with
  | "alnum" => some (.ranges [digits, uppers, lowers])
  | "alpha" => some (.ranges [uppers, lowers])
  | "ascii" => some (.ranges [(0, 127)])
  | "blank" => some (.ranges [(9, 9), (32, 32)])
  | "cntrl" => some (.ranges [(0, 31), (127, 127)])
  | "digit" => some (.ranges [digits])
  | "graph" => some (.ranges [(33, 126)])
  | "lower" => some (.ranges [lowers])
  | "print" => some (.ranges [(32, 126)])
  | "punct" => some (.ranges [(33, 47), (58, 64), (91, 96), (123, 126)])
  | "space" => some (.ranges [(9, 13), (32, 32)])
  | "upper" => some (.ranges [uppers])
  | "word" => some (.ranges [digits, uppers, (95, 95), lowers])
  | "xdigit" => some (.ranges [digits, (65, 70), (97, 102)])
  | _ => none

/-- A named class at the start of a text, and what follows it. -/
def namedClass? : List Char → Option (ClassTerm × List Char)
  | '[' :: ':' :: cs =>
    let (negated, cs) := match cs with
      | '^' :: cs => (true, cs)
      | cs => (false, cs)
    match Text.dropLead? [':', ']'] (cs.dropWhile (· ≠ ':')) with
    | some rest => (asciiClass? (cs.takeWhile (· ≠ ':'))).map fun set => (.named set negated, rest)
    | none => none
  | _ => none

/-- Reads one member of a bracket, or one end of a range. -/
def readClassPrimitive : Reads Term := do
  match ← here with
  | '\\' => readEscape
  | c => bump; return .literal ⟨c, false⟩

/-- A primitive as a member of a bracket. -/
def classItem? : Term → Option ClassTerm
  | .literal l => some (.range l l)
  | .shorthand kind negated => some (.shorthand kind negated)
  | .property query negated => some (.property query negated)
  | _ => none

/-- A primitive as an end of a range. -/
def classLiteral? : Term → Option Literal
  | .literal l => some l
  | _ => none

/-- The character that decides whether a hyphen makes a range. In extended mode it stands behind
blanks, or behind a number sign among them. -/
def behindHyphen? (extended : Bool) (cs : List Char) : Option Char :=
  if extended then
    match cs.dropWhile Text.isBlank with
    | '#' :: rest => (rest.dropWhile Text.isBlank).head?
    | rest => rest.head?
  else cs.head?

/-- Reads a member of a bracket or a range. -/
def readRange : Reads ClassTerm := do
  let first ← readClassPrimitive
  skip
  let c ← here
  let k ← get
  let next := behindHyphen? k.extended (k.rest.drop 1)
  if c ≠ '-' ∨ next = some ']' ∨ next = some '-' then
    return ← classItem? first
  else
    advance
    discard here
    let second ← readClassPrimitive
    let lo ← classLiteral? first
    let hi ← classLiteral? second
    require (lo.char.toNat ≤ hi.char.toNat)
    return .range lo hi

/-- A set joined to the operation that waits for its right side. -/
def joined (pending : Option (SetOperation × ClassTerm)) (t : ClassTerm) : ClassTerm :=
  match pending with
  | none => t
  | some (op, lhs) => .operation op lhs t

/-- Reads the hyphens that open a bracket and stand for themselves. -/
def readHyphens : Nat → List ClassTerm → Reads (List ClassTerm)
  | 0, acc => return acc
  | fuel + 1, acc => do
    if (← here) = '-' then
      advance
      readHyphens fuel (.range ⟨'-', false⟩ ⟨'-', false⟩ :: acc)
    else return acc

mutual

/-- Reads a bracket. The reader stands on its opening. -/
def readBracket : Nat → Reads (Bool × ClassTerm)
  | 0 => failure
  | fuel + 1 => do
    advance
    let negated := (← here) = '^'
    if negated then advance
    let items ← readHyphens ((← get).rest.length + 1) []
    if items.isEmpty && (← here) = ']' then
      advance
      discard here
      return (negated, ← readMembers fuel none [.range ⟨']', false⟩ ⟨']', false⟩])
    else
      return (negated, ← readMembers fuel none items)

/-- Reads the members of a bracket and its end; `acc` holds those since the last operation. -/
def readMembers : Nat → Option (SetOperation × ClassTerm) → List ClassTerm → Reads ClassTerm
  | 0, _, _ => failure
  | fuel + 1, pending, acc => do
    skip
    let done := joined pending (.ofItems acc.reverse)
    let k ← get
    match k.rest with
    | [] => failure
    | ']' :: _ => bump; return done
    | '&' :: '&' :: rest =>
      set { k with rest }
      readMembers fuel (some (.intersection, done)) []
    | '-' :: '-' :: rest =>
      set { k with rest }
      readMembers fuel (some (.difference, done)) []
    | '~' :: '~' :: rest =>
      set { k with rest }
      readMembers fuel (some (.symmetricDifference, done)) []
    | '[' :: _ =>
      match namedClass? k.rest with
      | some (t, rest) =>
        set { k with rest }
        readMembers fuel pending (t :: acc)
      | none =>
        let (negated, body) ← readBracket fuel
        readMembers fuel pending (.bracket negated body :: acc)
    | _ => readMembers fuel pending ((← readRange) :: acc)

end

/-- The flags with one of them switched. -/
def switched? (change : FlagChange) (on : Bool) : Char → Option FlagChange
  | 'i' => some { change with anyCase := some on }
  | 'm' => some { change with multiLine := some on }
  | 's' => some { change with dotAll := some on }
  | 'U' => some { change with swapGreed := some on }
  | 'u' => some { change with unicode := some on }
  | 'R' => some { change with carriageReturn := some on }
  | 'x' => some { change with extended := some on }
  | _ => none

/-- Reads flags up to a colon or a closing parenthesis: the switches, whether there are any, and
the text from there. Each letter and the hyphen may stand once, and the hyphen not last. -/
def flagsOf? (change : FlagChange) (seen : List Char) : List Char → Option (FlagChange × Bool × List Char)
  | [] => none
  | c :: cs =>
    if c = ':' ∨ c = ')' then
      if seen.head? = some '-' then none else some (change, !seen.isEmpty, c :: cs)
    else if seen.contains c then none
    else if c = '-' then flagsOf? change ('-' :: seen) cs
    else
      match switched? change (!seen.contains '-') c with
      | some change => flagsOf? change (c :: seen) cs
      | none => none

def isNameChar (first : Bool) (c : Char) : Bool :=
  c == '_' || Unicode.isAlphabetic c ||
    (!first && (c == '.' || c == '[' || c == ']' || Unicode.isAlphanumeric c))

/-- Reads the name of a group up to the closing angle; no name may be given twice. -/
def readName : Reads Unit := do
  let k ← get
  let name := k.rest.takeWhile (· ≠ '>')
  let after := k.rest.drop name.length
  require (!after.isEmpty && !name.isEmpty && !k.names.contains name)
  require ((name.take 1).all (isNameChar true) && (name.drop 1).all (isNameChar false))
  set { k with rest := after.drop 1, names := name :: k.names }

/-- What a repetition repeats: the item before it, which must not be a switch of flags. -/
def repeated? : List Term → Option (Term × List Term)
  | [] => none
  | .flags _ :: _ => none
  | t :: ts => some (t, ts)

/-- Leaves a question mark behind, which asks for the fewest repetitions. -/
def skipLazy : Reads Unit := do
  if (← peek) = some '?' then bump

/-- Reads the bounds of a counted repetition. The reader stands on the opening brace. -/
def readBounds : Reads (Nat × Option Nat) := do
  advance
  discard here
  let min ← readCount
  let max ← if (← here) = ',' then do
      advance
      if (← here) = '\x7d' then pure none else some <$> readCount
    else pure (some min)
  require ((← here) = '\x7d')
  require (max.all (min ≤ ·))
  advance
  skipLazy
  return (min, max)

mutual

/-- Reads alternatives up to a closing parenthesis or the end. -/
def readChoices : Nat → Reads (List Term)
  | 0 => failure
  | fuel + 1 => do
    let first ← readSequence fuel []
    if (← peek) = some '|' then
      bump
      return first :: (← readChoices fuel)
    else return [first]

/-- Reads the items of one alternative; `acc` holds those before. -/
def readSequence : Nat → List Term → Reads Term
  | 0, _ => failure
  | fuel + 1, acc => do
    skip
    match ← peek with
    | none | some ')' | some '|' => return .ofSequence acc.reverse
    | some '(' => readSequence fuel ((← readGroup fuel) :: acc)
    | some '[' => do
      let (negated, body) ← readBracket ((← get).rest.length + 1)
      readSequence fuel (.bracket negated body :: acc)
    | some '?' => do
      let (t, ts) ← repeated? acc
      bump; skipLazy
      readSequence fuel (.repetition t 0 (some 1) :: ts)
    | some '*' => do
      let (t, ts) ← repeated? acc
      bump; skipLazy
      readSequence fuel (.repetition t 0 none :: ts)
    | some '+' => do
      let (t, ts) ← repeated? acc
      bump; skipLazy
      readSequence fuel (.repetition t 1 none :: ts)
    | some '\x7b' => do
      let (t, ts) ← repeated? acc
      let (min, max) ← readBounds
      readSequence fuel (.repetition t min max :: ts)
    | some _ => readSequence fuel ((← readPrimitive) :: acc)

/-- Reads a group or a switch of flags. The reader stands on the opening parenthesis. -/
def readGroup : Nat → Reads Term
  | 0 => failure
  | fuel + 1 => do
    bump
    skip
    let k ← get
    let ahead (mark : List Char) : Bool := (Text.dropLead? mark k.rest).isSome
    require (!(ahead ['?', '='] || ahead ['?', '!'] || ahead ['?', '<', '='] || ahead ['?', '<', '!']))
    if (← take? ['?', 'P', '<']) || (← take? ['?', '<']) then
      readName
      readBody fuel {}
    else if ← take? ['?'] then
      let (change, any, rest) ← flagsOf? {} [] (← get).rest
      modify fun k => { k with rest := rest.drop 1 }
      if rest.head? = some ')' then
        require any
        modify fun k => { k with extended := change.extended.getD k.extended }
        return .flags change
      else readBody fuel change
    else readBody fuel {}

def readBody : Nat → FlagChange → Reads Term
  | 0, _ => failure
  | fuel + 1, change => do
    let outside := (← get).extended
    modify fun k => { k with extended := change.extended.getD outside }
    let choices ← readChoices fuel
    require ((← peek) = some ')')
    modify fun k => { k with extended := outside }
    bump
    return .group change (.ofChoice choices)

end

end Reader

/-- How deep a pattern may be nested. -/
def maxNesting : Nat := 250

def Term.parse? (text : List Char) : Option Term := do
  let (choices, k) ← (Reader.readChoices (4 * text.length + 8)).run ⟨text, false, []⟩
  let term := Term.ofChoice choices
  if k.rest.isEmpty && term.nesting ≤ maxNesting then some term else none

end Sentinel.Pattern
