import Sentinel.Template.Basic
/-!
# Reading templates

From the text of a template to its parts. Tags stand between an opening and a closing delimiter,
which a tag can replace. A section tag, a comment or an inclusion that stands alone on its line takes
the line's blanks and its end with it.
-/

namespace Sentinel.Template

structure Delimiters where
  opening : List Char := ['\x7b', '\x7b']
  closing : List Char := ['\x7d', '\x7d']
deriving DecidableEq, Repr

/-- A section that has been opened: its name, whether it is inverted, whether its tag stood alone,
and the parts in front of it, the last one first. -/
structure OpenSection where
  name : Name
  inverted : Bool
  alone : Bool
  before : List Part

/-- Where a reader stands. Within a delimiter it keeps the characters that it has seen of it. -/
inductive Mode where
  | text
  | opening (seen : List Char)
  | tag (braced : Bool)
  | closing (braced : Bool) (seen : Char)
deriving DecidableEq, Repr

/-- A reader: the mode, the characters of the text or tag so far with the last one first, how many
characters to pass over, the parts so far with the last one first, and the open sections. -/
structure Reader where
  delimiters : Delimiters := {}
  mode : Mode := .text
  content : List Char := []
  skip : Nat := 0
  parts : List Part := []
  openSections : List OpenSection := []

/-- Whether a text ends a line here: nothing follows, or a line end does. -/
def atLineEnd : List Char → Bool
  | [] | '\n' :: _ | '\r' :: '\n' :: _ => true
  | _ => false

/-- The number of characters of the line end that follows. -/
def lineEndLength : List Char → Nat
  | '\r' :: '\n' :: _ => 2
  | '\n' :: _ => 1
  | _ => 0

/-- A text without the blanks behind its last line end, if nothing but blanks stands there. -/
def withoutIndent? (cs : List Char) : Option (List Char) :=
  let indent := cs.reverse.takeWhile fun c => c ≠ '\n' ∧ Text.isBlank c
  let rest := cs.take (cs.length - indent.length)
  if rest.getLast? = some '\n' then some rest else none

namespace Reader

/-- The reader with the content as a text part, if there is any. -/
def flush (r : Reader) : Reader :=
  if r.content.isEmpty then r
  else { r with parts := .text r.content.reverse :: r.parts, content := [] }

/-- The parts of the line in front of a tag, if the tag stands alone on the line: blanks in front of
it are taken away. -/
def aloneParts? (r : Reader) : Option (List Part) :=
  match r.parts with
  | [] =>
    match r.openSections with
    | [] => some []
    | s :: _ => if s.alone then some [] else none
  | .text cs :: ps =>
    if cs.isEmpty then none
    else match withoutIndent? cs with
      | some rest => some (.text rest :: ps)
      | none =>
        if cs.all Text.isBlank && ps.isEmpty && r.openSections.isEmpty then some [.text []] else none
  | _ => none

/-- Whether a tag stands alone on its line, and the reader behind it and the end of the line. -/
def takeLine (r : Reader) (ahead : List Char) : Bool × Reader :=
  if atLineEnd ahead then
    match r.aloneParts? with
    | some parts => (true, { r with parts, skip := lineEndLength ahead })
    | none => (false, r)
  else (false, r)

def push (r : Reader) (p : Part) : Reader := { r with parts := p :: r.parts }

/-- The content of a tag without blanks around it, of which there must be something. -/
def nameIn (cs : List Char) : Except Fault (List Char) :=
  let name := Text.trimmed cs
  if name.isEmpty then .error .emptyTag else .ok name

def openSection (r : Reader) (inverted : Bool) (body ahead : List Char) : Except Fault Reader := do
  let (alone, r) := r.takeLine ahead
  let name ← nameIn body
  return { r with
    parts := []
    openSections := ⟨nameOf name, inverted, alone, r.parts⟩ :: r.openSections }

/-- Closes the section that was opened last, which must have the name given here. -/
def closeSection (r : Reader) (body ahead : List Char) : Except Fault Reader := do
  let (_, r) := r.takeLine ahead
  let name ← nameIn body
  match r.openSections with
  | [] => throw .closingWithoutOpening
  | s :: rest =>
    if s.name = nameOf name then
      return { r with parts := .block s.name s.inverted r.parts.reverse :: s.before, openSections := rest }
    else throw .unclosedSection

/-- The delimiters that a tag puts in place of the old ones. -/
def delimitersIn (body : List Char) : Except Fault Delimiters := do
  if body.length < 2 ∨ body.getLast? ≠ some '=' then throw .malformedDelimiters
  let both ← nameIn body.dropLast
  let opening := both.takeWhile fun c => !Text.isBlank c
  let closing := (both.drop opening.length).dropWhile Text.isBlank
  if closing.isEmpty then throw .missingClosingDelimiter
  return ⟨opening, closing⟩

/-- Takes the content of a tag that has just been closed. -/
def takeTag (r : Reader) (ahead : List Char) : Except Fault Reader := do
  let content := r.content.reverse
  let r := { r with content := [], mode := .text }
  match content with
  | [] => throw .emptyTag
  | '!' :: _ => return (r.takeLine ahead).2
  | '&' :: body => return r.push (.variable (nameOf (← nameIn body)) false)
  | '\x7b' :: body =>
    if body.getLast? = some '\x7d' then return r.push (.variable (nameOf (← nameIn body.dropLast)) false)
    else throw .unbalancedBraces
  | '#' :: body => r.openSection false body ahead
  | '^' :: body => r.openSection true body ahead
  | '/' :: body => r.closeSection body ahead
  | '>' :: body =>
    let (_, r) := r.takeLine ahead
    let _ ← nameIn body
    return r.push .inclusion
  | '=' :: body =>
    let (_, r) := r.takeLine ahead
    return { r with delimiters := ← delimitersIn body }
  | body => return r.push (.variable (nameOf (← nameIn body)) true)

/-- Reads a character, with the text behind it in view. A beginning of a delimiter that is not gone
on with belongs to the text, together with the character that breaks it off. -/
def step (r : Reader) (c : Char) (ahead : List Char) : Except Fault Reader :=
  match r.mode with
  | .text =>
    match r.delimiters.opening with
    | [] => .ok { r with content := c :: r.content }
    | o :: os =>
      if c ≠ o then .ok { r with content := c :: r.content }
      else if os.isEmpty then .ok { r.flush with mode := .tag false }
      else .ok { r with mode := .opening [c] }
  | .opening seen =>
    let seen := c :: seen
    if r.delimiters.opening = seen.reverse then .ok { r.flush with mode := .tag false }
    else if seen.reverse.isPrefixOf r.delimiters.opening then .ok { r with mode := .opening seen }
    else .ok { r with mode := .text, content := seen ++ r.content }
  | .tag braced =>
    let tagged := { r with content := c :: r.content }
    if r.content.isEmpty ∧ c = '\x7b' then .ok { tagged with mode := .tag true }
    else if braced ∧ c = '\x7d' then .ok { tagged with mode := .tag false }
    else
      match r.delimiters.closing with
      | [] => .ok tagged
      | o :: os =>
        if c ≠ o then .ok tagged
        else if os.isEmpty then r.takeTag ahead
        else .ok { r with mode := .closing braced c }
  | .closing braced seen =>
    match r.delimiters.closing with
    | [_, o] => if c = o then r.takeTag ahead else .error .malformedClosing
    | _ :: o :: _ =>
      if c = o then .ok { r with mode := .tag braced, content := c :: seen :: r.content }
      else .error .malformedClosing
    | _ => .error .malformedClosing

def readAll (r : Reader) : List Char → Except Fault Reader
  | [] => .ok r
  | c :: cs => do
    match r.skip with
    | n + 1 => readAll { r with skip := n } cs
    | 0 => readAll (← r.step c cs) cs

/-- Ends the text: a beginning of a delimiter is text, and what is open is a fault. -/
def finish (r : Reader) : Except Fault (List Part) := do
  let r ← match r.mode with
    | .text => .ok r.flush
    | .opening seen => .ok { r with content := seen ++ r.content }.flush
    | .tag _ => .error .unclosedTag
    | .closing _ seen => .ok { r with content := seen :: r.content }.flush
  if r.openSections.isEmpty then return r.parts.reverse else throw .unclosedSection

end Reader

end Sentinel.Template

namespace Sentinel

structure Template where
  parts : List Template.Part

namespace Template

def parse (source : String) : Except Fault Template := do
  return ⟨← (← ({} : Reader).readAll source.toList).finish⟩

/-- The text of a template that is filled in from values; there is none where the template asks for
the text of a flag. -/
def render? (t : Template) (values : Values) : Option String :=
  (renderEach? values [] t.parts).map String.ofList

end Template

end Sentinel
