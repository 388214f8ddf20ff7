import Mathlib.Data.List.Chain
import Sentinel.Proofs.Pipeline.Mailing
import Sentinel.Proofs.Text.Integer
/-!
# Templates made of snippets

A template that needs no more than plain text, values put in as they are, and such values in a section that
a flag guards, is a row of snippets. Written down, a row is read as these snippets again, and it is filled
in one snippet after the other: what is put in is the text of the value, whatever characters it has.

1. `readAll_plain`, `readAll_valueText`, `readAll_optional`: what reading makes of one snippet.
2. `parse_source`: a row that is written down is read as its parts.
3. `render?_parts`: the text that the parts are filled in to.
-/

namespace Sentinel

namespace Template

/-- A name that a tag consists of: no blanks around it that would be taken away, no dots that would take it
apart, and nothing that could close the tag. -/
def IsTagName (name : String) : Prop :=
  name.toList ≠ [] ∧ ∀ c ∈ name.toList, Text.isBlank c = false ∧ c ≠ '.' ∧ c ≠ '\x7d'

instance (name : String) : Decidable (IsTagName name) :=
  -- The characters of the name are gone through, and not all that there are.
  @instDecidableAnd _ _ inferInstance (List.decidableBAll _ name.toList)

theorem IsTagName.nameIn {name : String} (h : IsTagName name) : Reader.nameIn name.toList = pure name.toList := by
  have htrimmed : Text.trimmed ([] ++ name.toList ++ []) = name.toList :=
    Text.trimmed_append (by simp) (fun c hc => (h.2 c hc).1) (by simp) h.1
  rw [List.nil_append, List.append_nil] at htrimmed
  rw [Reader.nameIn, htrimmed, if_neg (by simpa using h.1)]
  rfl

theorem IsTagName.nameOf {name : String} (h : IsTagName name) : nameOf name.toList = [name.toList] := by
  have hdot : '.' ∉ name.toList := fun hc => (h.2 _ hc).2.1 rfl
  have hne : name.toList ≠ ['.'] := fun heq => hdot (by simp [heq])
  rw [Template.nameOf, if_neg hne, Text.pieces_of_not_mem hdot]
  simp [h.1]

theorem IsTagName.not_mem {name : String} (h : IsTagName name) : '\x7d' ∉ name.toList :=
  fun hc => (h.2 _ hc).2.2 rfl

/-- A tag as it is written, with the character that says what it is for. -/
def tagText (sigil : Char) (name : String) : List Char :=
  '\x7b' :: '\x7b' :: sigil :: (name.toList ++ ['\x7d', '\x7d'])

/-- The tag that puts a value in as it is. -/
def valueText (name : String) : List Char :=
  '\x7b' :: '\x7b' :: '\x7b' :: (name.toList ++ ['\x7d', '\x7d', '\x7d'])

namespace Reader

section

variable (content : List Char) (parts : List Part) (sections : List OpenSection)

/-- A reader between tags, with the usual delimiters. -/
def between : Reader := { content, parts, openSections := sections }

/-- A reader within a tag. -/
def within (braced : Bool) : Reader := { mode := .tag braced, content, parts, openSections := sections }

/-- The parts that there are when the content has become one. -/
def flushed : List Part := if content.isEmpty then parts else .text content.reverse :: parts

theorem finish_between : (between content parts []).finish = .ok (flushed content parts).reverse := by
  cases content <;> rfl

end

variable {content : List Char} {parts : List Part} {sections : List OpenSection}

theorem readAll_of_step {r s : Reader} {c : Char} {cs : List Char} (hskip : r.skip = 0)
    (h : r.step c cs = .ok s) : r.readAll (c :: cs) = s.readAll cs := by
  rw [readAll, hskip, h]
  rfl

/-- Text without an opening brace goes to the content. -/
theorem readAll_plain {cs : List Char} (h : '\x7b' ∉ cs) (rest : List Char) :
    (between content parts sections).readAll (cs ++ rest) =
      (between (cs.reverse ++ content) parts sections).readAll rest := by
  induction cs generalizing content with
  | nil => rfl
  | cons c cs ih =>
    rw [List.mem_cons, not_or] at h
    have hstep : (between content parts sections).step c (cs ++ rest) =
        .ok (between (c :: content) parts sections) := by
      simp [step, between, Ne.symm h.1]
    rw [List.cons_append, readAll_of_step rfl hstep, ih h.2]
    simp

theorem readAll_opening (rest : List Char) :
    (between content parts sections).readAll ('\x7b' :: '\x7b' :: rest) =
      (within [] (flushed content parts) sections false).readAll rest := by
  let half : Reader := { between content parts sections with mode := .opening ['\x7b'] }
  have hfirst : (between content parts sections).step '\x7b' ('\x7b' :: rest) = .ok half := rfl
  have hsecond : half.step '\x7b' rest = .ok (within [] (flushed content parts) sections false) := by
    cases content <;> rfl
  rw [readAll_of_step rfl hfirst, readAll_of_step rfl hsecond]

theorem readAll_within {braced : Bool} {cs : List Char} (h : '\x7d' ∉ cs) (hne : content ≠ [])
    (rest : List Char) :
    (within content parts sections braced).readAll (cs ++ rest) =
      (within (cs.reverse ++ content) parts sections braced).readAll rest := by
  induction cs generalizing content with
  | nil => rfl
  | cons c cs ih =>
    rw [List.mem_cons, not_or] at h
    have hstep : (within content parts sections braced).step c (cs ++ rest) =
        .ok (within (c :: content) parts sections braced) := by
      simp [step, within, hne, Ne.symm h.1]
    rw [List.cons_append, readAll_of_step rfl hstep, ih h.2 (List.cons_ne_nil c content)]
    simp

theorem readAll_closing (rest : List Char) {r : Reader}
    (h : ({ within content parts sections false with mode := .closing false '\x7d' } : Reader).takeTag rest =
      pure r) :
    (within content parts sections false).readAll ('\x7d' :: '\x7d' :: rest) = r.readAll rest := by
  let half : Reader := { within content parts sections false with mode := .closing false '\x7d' }
  have hfirst : (within content parts sections false).step '\x7d' ('\x7d' :: rest) = .ok half := by
    simp [step, within, half]
  have hsecond : half.step '\x7d' rest = .ok r := h
  rw [readAll_of_step rfl hfirst, readAll_of_step rfl hsecond]

/-- A tag is done with a reader that has its text without the braces. -/
theorem readAll_tagText {sigil : Char} (hsigil : sigil ≠ '\x7b' ∧ sigil ≠ '\x7d') {name : String}
    (hname : IsTagName name) (rest : List Char) {r : Reader}
    (h : ({ within (name.toList.reverse ++ [sigil]) (flushed content parts) sections false with
        mode := .closing false '\x7d' } : Reader).takeTag rest = pure r) :
    (between content parts sections).readAll (tagText sigil name ++ rest) = r.readAll rest := by
  have hsource : tagText sigil name ++ rest =
      '\x7b' :: '\x7b' :: sigil :: (name.toList ++ '\x7d' :: '\x7d' :: rest) := by simp [tagText]
  have hstep : (within [] (flushed content parts) sections false).step sigil
        (name.toList ++ '\x7d' :: '\x7d' :: rest) =
      .ok (within [sigil] (flushed content parts) sections false) := by
    simp [step, within, hsigil.1, hsigil.2]
  rw [hsource, readAll_opening, readAll_of_step rfl hstep,
    readAll_within hname.not_mem (List.cons_ne_nil sigil []), readAll_closing rest h]

/-- A tag with three braces puts a value in. -/
theorem readAll_valueText {name : String} (hname : IsTagName name) (rest : List Char) :
    (between content parts sections).readAll (valueText name ++ rest) =
      (between [] (.variable [name.toList] false :: flushed content parts) sections).readAll rest := by
  have hsource : valueText name ++ rest =
      '\x7b' :: '\x7b' :: '\x7b' :: (name.toList ++ '\x7d' :: '\x7d' :: '\x7d' :: rest) := by simp [valueText]
  let body := '\x7d' :: (name.toList.reverse ++ ['\x7b'])
  -- The third brace on either side belongs to what the tag says.
  have hfirst : (within [] (flushed content parts) sections false).step '\x7b'
      (name.toList ++ '\x7d' :: '\x7d' :: '\x7d' :: rest) =
        .ok (within ['\x7b'] (flushed content parts) sections true) := by
    simp [step, within]
  have hlast : (within (name.toList.reverse ++ ['\x7b']) (flushed content parts) sections true).step '\x7d'
      ('\x7d' :: '\x7d' :: rest) = .ok (within body (flushed content parts) sections false) := by
    simp [step, within, body]
  have htaken : ({ within body (flushed content parts) sections false with mode := .closing false '\x7d' } :
      Reader).takeTag rest =
        pure (between [] (.variable [name.toList] false :: flushed content parts) sections) := by
    simp only [← hname.nameOf]
    simp [takeTag, within, body, hname.nameIn, push, between]
  rw [hsource, readAll_opening, readAll_of_step rfl hfirst,
    readAll_within hname.not_mem (List.cons_ne_nil _ []), readAll_of_step rfl hlast, readAll_closing rest htaken]

theorem readAll_openSection {flag : String} (hflag : IsTagName flag) {rest : List Char}
    (hrest : atLineEnd rest = false) :
    (between content parts sections).readAll (tagText '#' flag ++ rest) =
      (between [] [] (⟨[flag.toList], false, false, flushed content parts⟩ :: sections)).readAll rest := by
  refine readAll_tagText (by decide) hflag rest ?_
  simp only [← hflag.nameOf]
  simp [takeTag, within, openSection, takeLine, hrest, hflag.nameIn, between]

theorem readAll_closeSection {flag : String} (hflag : IsTagName flag) (rest : List Char) {name : Name}
    {escaped inverted alone : Bool} {before : List Part} :
    (between [] (.variable name escaped :: parts) (⟨[flag.toList], inverted, alone, before⟩ :: sections)).readAll
        (tagText '/' flag ++ rest) =
      (between [] (.block [flag.toList] inverted (.variable name escaped :: parts).reverse :: before)
        sections).readAll rest := by
  refine readAll_tagText (by decide) hflag rest ?_
  -- A value stands in front of the tag, so it does not stand alone on its line.
  simp only [← hflag.nameOf]
  simp [takeTag, within, closeSection, takeLine, aloneParts?, flushed, hflag.nameIn, between]

end Reader

/-- A piece of a template: text, a value that is put in as it is, or such a value behind a text of its own,
both of which are there if a flag is set. -/
inductive Snippet where
  | plain (cs : List Char)
  | value (name : String)
  | optional (flag : String) (lead : List Char) (name : String)
deriving DecidableEq

namespace Snippet

def source : Snippet → List Char
  | plain cs => cs
  | value name => valueText name
  | optional flag lead name => tagText '#' flag ++ lead ++ valueText name ++ tagText '/' flag

def part : Snippet → Part
  | plain cs => .text cs
  | value name => .variable [name.toList] false
  | optional flag lead name => .block [flag.toList] false [.text lead, .variable [name.toList] false]

/-- Text that no tag begins in. -/
def IsPlain (cs : List Char) : Prop := cs ≠ [] ∧ '\x7b' ∉ cs

/-- A snippet that can be told from what stands around it. A section begins on a line that goes on. -/
def IsSound : Snippet → Prop
  | plain cs => IsPlain cs
  | value name => IsTagName name
  | optional flag lead name => IsTagName flag ∧ IsTagName name ∧ IsPlain lead ∧ lead.head? ∉ [some '\n', some '\r']

/-- Text goes on with text, and with nothing else. -/
def isPlain : Snippet → Bool
  | plain _ => true
  | _ => false

instance (cs : List Char) : Decidable (IsPlain cs) := inferInstanceAs (Decidable (cs ≠ [] ∧ '\x7b' ∉ cs))

instance (p : Snippet) : Decidable p.IsSound :=
  match p with
  | plain cs => inferInstanceAs (Decidable (IsPlain cs))
  | value name => inferInstanceAs (Decidable (IsTagName name))
  | optional flag lead name => inferInstanceAs (Decidable
      (IsTagName flag ∧ IsTagName name ∧ IsPlain lead ∧ lead.head? ∉ [some '\n', some '\r']))

/-- Snippets that are told from one another when they are written down: no two texts are neighbours. -/
def IsRow (ps : List Snippet) : Prop :=
  (∀ p ∈ ps, p.IsSound) ∧ ps.IsChain fun p q => ¬(p.isPlain = true ∧ q.isPlain = true)

instance (ps : List Snippet) : Decidable (IsRow ps) :=
  inferInstanceAs (Decidable ((∀ p ∈ ps, p.IsSound) ∧ ps.IsChain fun p q => ¬(p.isPlain = true ∧ q.isPlain = true)))

end Snippet

namespace Reader

open Snippet (IsPlain IsRow)

variable {content : List Char} {parts : List Part} {sections : List OpenSection}

theorem flushed_reverse {cs : List Char} (h : cs ≠ []) : flushed cs.reverse parts = .text cs :: parts := by
  rw [flushed, if_neg (by simpa using h), List.reverse_reverse]

theorem atLineEnd_append {cs : List Char} (hne : cs ≠ []) (h : cs.head? ∉ [some '\n', some '\r'])
    (rest : List Char) : atLineEnd (cs ++ rest) = false := by
  obtain ⟨c, cs, rfl⟩ := List.exists_cons_of_ne_nil hne
  simp only [List.head?_cons, List.mem_cons, Option.some.injEq, List.not_mem_nil, or_false, not_or] at h
  unfold atLineEnd
  split
  · next heq => cases heq
  · next heq => exact absurd (List.cons.inj heq).1 h.1
  · next heq => exact absurd (List.cons.inj heq).1 h.2
  · rfl

theorem readAll_optional {flag : String} {lead : List Char} {name : String}
    (h : (Snippet.optional flag lead name).IsSound) (rest : List Char) :
    (between content parts sections).readAll ((Snippet.optional flag lead name).source ++ rest) =
      (between [] ((Snippet.optional flag lead name).part :: flushed content parts) sections).readAll rest := by
  obtain ⟨hflag, hname, ⟨hne, hlead⟩, hhead⟩ := h
  rw [Snippet.source, List.append_assoc, List.append_assoc, List.append_assoc,
    readAll_openSection hflag (atLineEnd_append hne hhead _), readAll_plain hlead, List.append_nil,
    readAll_valueText hname, flushed_reverse hne, readAll_closeSection hflag]
  rfl

/-- A row is read as its parts, behind those that were there and the content. -/
theorem readAll_row {ps : List Snippet} (h : IsRow ps)
    (hcontent : content = [] ∨ ∀ p ∈ ps.head?, p.isPlain = false) :
    ((between content parts []).readAll (ps.flatMap Snippet.source) >>= finish) =
      .ok ((flushed content parts).reverse ++ ps.map Snippet.part) := by
  induction ps generalizing content parts with
  | nil =>
    rw [List.flatMap_nil, List.map_nil, List.append_nil]
    exact finish_between content parts
  | cons p ps ih =>
    obtain ⟨hsound, hchain⟩ := h
    obtain ⟨hp, hps⟩ := List.forall_mem_cons.mp hsound
    obtain ⟨hnext, htail⟩ := List.isChain_cons.mp hchain
    have hrow : IsRow ps := ⟨hps, htail⟩
    rw [List.flatMap_cons, List.map_cons]
    cases p with
    | plain cs =>
      -- There is no content in front of a text, so the text becomes a part of its own.
      obtain rfl : content = [] := by simpa [Snippet.isPlain] using hcontent
      have hhead : ∀ q ∈ ps.head?, q.isPlain = false := by
        intro q hq
        simpa [Snippet.isPlain] using hnext q hq
      rw [Snippet.source, readAll_plain hp.2, List.append_nil, ih hrow (.inr hhead), flushed_reverse hp.1]
      simp [flushed, Snippet.part]
    | value name =>
      rw [Snippet.source, readAll_valueText hp, ih hrow (.inl rfl)]
      simp [flushed, Snippet.part]
    | optional flag lead name =>
      rw [readAll_optional hp, ih hrow (.inl rfl)]
      simp [flushed]

end Reader

namespace Snippet

/-- A row that is written down is read as its parts. -/
theorem parse_source {ps : List Snippet} (h : IsRow ps) :
    parse (String.ofList (ps.flatMap source)) = .ok ⟨ps.map part⟩ := by
  have hread := @Reader.readAll_row [] [] _ h (.inl rfl)
  obtain ⟨r, hr, hfinish⟩ := bind_eq_ok.mp hread
  rw [parse, String.toList_ofList]
  exact bind_eq_ok.mpr ⟨r, hr, bind_eq_ok.mpr ⟨_, hfinish, rfl⟩⟩

variable {values : Values} {dots : List Value}

/-- The characters of the text under a name. -/
def textOf (values : Values) (name : String) : List Char :=
  match values.get? name with
  | some (.text s) => s.toList
  | _ => []

/-- What a snippet is filled in to: the text of a value is put in as it is, whatever its characters are. -/
def filled (values : Values) : Snippet → List Char
  | plain cs => cs
  | value name => textOf values name
  | optional flag lead name => if values.get? flag = some (.flag true) then lead ++ textOf values name else []

/-- A snippet that finds a flag where it asks for one, and none where it asks for a text. -/
def Fits (values : Values) : Snippet → Prop
  | plain _ => True
  | value name => ¬IsFlag values name
  | optional flag _ name => IsFlag values flag ∧ ¬IsFlag values name

theorem render?_value {name : String} (h : ¬IsFlag values name) :
    Part.render? values dots (.variable [name.toList] false) = some (textOf values name) := by
  rw [Part.render?, lookUp, textOf, String.ofList_toList]
  cases hget : values.get? name with
  | none => rfl
  | some v =>
    cases v with
    | text s => rfl
    | flag b => exact absurd ⟨b, hget⟩ h

theorem render?_part {p : Snippet} (h : p.Fits values) : p.part.render? values dots = some (p.filled values) := by
  cases p with
  | plain cs => rw [part, Part.render?, filled]
  | value name => exact render?_value h
  | optional flag lead name =>
    obtain ⟨⟨b, hb⟩, hname⟩ := h
    rw [part, Part.render?, lookUp, filled, String.ofList_toList, hb]
    cases b with
    | false => rfl
    | true =>
      have hlead : Part.render? values dots (.text lead) = some lead := by rw [Part.render?]
      simp [renderEach?, render?_value hname, hlead]

theorem render?_parts {ps : List Snippet} (h : ∀ p ∈ ps, p.Fits values) :
    renderEach? values dots (ps.map part) = some (ps.flatMap (filled values)) := by
  induction ps with
  | nil => simp [renderEach?]
  | cons p ps ih =>
    obtain ⟨hp, hps⟩ := List.forall_mem_cons.mp h
    simp [renderEach?, render?_part hp, ih hps]

end Snippet

end Template

end Sentinel
