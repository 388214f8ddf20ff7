import Sentinel.KeyMap
import Sentinel.Text.Blank
import Sentinel.Text.Split
/-!
# Templates

The parts of a mail template and how they are filled in from named values. A name is looked up among
the values; a section is filled in once for a value that is not empty, and there a dot stands for
this value. An inverted section is filled in where there is no value, or where it is a flag that is
not set.
-/

namespace Sentinel

namespace Template

/-- What is wrong with the text of a template. -/
inductive Fault where
  | malformedClosing
  | unclosedTag
  | unbalancedBraces
  | emptyTag
  | closingWithoutOpening
  | unclosedSection
  | malformedDelimiters
  | missingClosingDelimiter
deriving DecidableEq, Repr

def Fault.message : Fault → String
  | malformedClosing => "found a malformed closing tag"
  | unclosedTag => "found an unclosed tag"
  | unbalancedBraces => "found an unbalanced unescape tag"
  | emptyTag => "found an empty tag"
  | closingWithoutOpening => "found a closing tag for an unopened section"
  | unclosedSection => "found an unclosed section"
  | malformedDelimiters => "invalid set delimeter tag syntax"
  | missingClosingDelimiter => "missing the new closing tag in set delimeter tag"

/-- The name in a tag: its pieces between dots. The name without pieces is the dot. -/
abbrev Name := List (List Char)

/-- The name that a text stands for; a dot at the end does not count. -/
def nameOf (cs : List Char) : Name :=
  if cs = ['.'] then []
  else
    let pieces := Text.pieces '.' cs
    if pieces.getLast? = some [] then pieces.dropLast else pieces

/-- A part of a template. -/
inductive Part where
  | text (cs : List Char)
  | variable (name : Name) (escaped : Bool)
  | block (name : Name) (inverted : Bool) (body : List Part)
  | inclusion

/-- A value that a name stands for. -/
inductive Value where
  | text (s : String)
  | flag (b : Bool)
deriving DecidableEq, Repr

/-- The named values that a template is filled in from. -/
abbrev Values := KeyMap Value

/-- What a name is found to be; the dot outside of every section is all values together. -/
inductive Found where
  | missing
  | value (v : Value)
  | everything
deriving DecidableEq, Repr

/-- What a name stands for, given what the dots of the sections around stand for, innermost first. -/
def lookUp (values : Values) (dots : List Value) : Name → Found
  | [] =>
    match dots with
    | [] => .everything
    | v :: _ => .value v
  | [piece] =>
    match values.get? (String.ofList piece) with
    | some v => .value v
    | none => .missing
  | _ => .missing

/-- A character of a text that is filled in into markup. -/
def escapedChar (c : Char) : List Char :=
  if c = '&' then "&amp;".toList
  else if c = '<' then "&lt;".toList
  else if c = '>' then "&gt;".toList
  else if c = '"' then "&quot;".toList
  else if c = '\'' then "&#39;".toList
  else [c]

mutual

/-- Fills in a part. There is no text for a flag or for all values together: then there is no
result. -/
def Part.render? (values : Values) (dots : List Value) : Part → Option (List Char)
  | .text cs => some cs
  | .variable name escaped =>
    match lookUp values dots name with
    | .missing => some []
    | .value (.text s) => some (if escaped then s.toList.flatMap escapedChar else s.toList)
    | .value (.flag _) | .everything => none
  | .block name inverted body =>
    match lookUp values dots name with
    | .missing | .value (.flag false) => if inverted then renderEach? values dots body else some []
    | .value (.flag true) => if inverted then some [] else renderEach? values dots body
    | .value (.text s) =>
      if inverted || s.isEmpty then some [] else renderEach? values (.text s :: dots) body
    | .everything => if inverted then some [] else renderEach? values dots body
  | .inclusion => some []

def renderEach? (values : Values) (dots : List Value) : List Part → Option (List Char)
  | [] => some []
  | p :: ps => do return (← p.render? values dots) ++ (← renderEach? values dots ps)

end

end Template

end Sentinel
