import Sentinel.Proofs.Pipeline.Validation
/-!
# Which mails are composed

Filling in a template fails in one way: it comes to a tag that asks for the text of a flag, or of all
values together. Whether it comes there depends on the sections that are entered on the way, and so on
the finding that the mail is about. Nothing else keeps a sender with a recipient from its mail.

1. `Template.renderEach?_eq_none_iff`: there is no text where a tag is met that has none.
2. `Finding.hasNoText_iff`: about a finding, these are the two flags, and the dot outside of all
   sections for texts.
3. `MailSender.compose_cases`: a sender with a recipient composes a mail, or panics where one of its
   templates comes to such a tag.
-/

namespace Sentinel

namespace Template

variable {values : Values} {dots : List Value}

/-- The dots within a section, if it is filled in at all. -/
def entered? (values : Values) (dots : List Value) (name : Name) (inverted : Bool) : Option (List Value) :=
  match lookUp values dots name with
  | .missing | .value (.flag false) => if inverted then some dots else none
  | .value (.flag true) | .everything => if inverted then none else some dots
  | .value (.text s) => if inverted || s.isEmpty then none else some (.text s :: dots)

theorem entered?_cases {name : Name} {inverted : Bool} {inner : List Value}
    (h : entered? values dots name inverted = some inner) : inner = dots ∨ ∃ s, inner = .text s :: dots := by
  unfold entered? at h
  split at h <;> split at h <;> cases h
  · exact .inl rfl
  · exact .inl rfl
  · exact .inl rfl
  · exact .inl rfl
  · exact .inr ⟨_, rfl⟩

/-- Filling in parts, among the dots of the sections around them, comes to a tag with a name, and there
the dots are `there`. -/
inductive Meets (values : Values) (name : Name) (there : List Value) : List Value → List Part → Prop
  | tag (escaped : Bool) (ps : List Part) : Meets values name there there (.variable name escaped :: ps)
  | later {dots : List Value} (p : Part) {ps : List Part} :
      Meets values name there dots ps → Meets values name there dots (p :: ps)
  | within {dots inner : List Value} {section' : Name} {inverted : Bool} {body : List Part} (ps : List Part) :
      entered? values dots section' inverted = some inner → Meets values name there inner body →
      Meets values name there dots (.block section' inverted body :: ps)

/-- What has no text of its own: a flag, and all values together. -/
def Found.HasNoText : Found → Prop
  | .value (.flag _) | .everything => True
  | .missing | .value (.text _) => False

/-- Filling in parts comes to a tag for what has no text. -/
def Trips (values : Values) (dots : List Value) (ps : List Part) : Prop :=
  ∃ name there, Meets values name there dots ps ∧ (lookUp values there name).HasNoText

theorem not_trips_nil : ¬Trips values dots [] := by
  rintro ⟨name, there, h, -⟩
  cases h

theorem trips_cons {p : Part} {ps : List Part} :
    Trips values dots (p :: ps) ↔ Trips values dots [p] ∨ Trips values dots ps := by
  constructor
  · rintro ⟨name, there, h, hnone⟩
    cases h with
    | tag escaped => exact .inl ⟨name, _, .tag escaped [], hnone⟩
    | later p h => exact .inr ⟨name, there, h, hnone⟩
    | within ps he h => exact .inl ⟨name, there, .within [] he h, hnone⟩
  · rintro (⟨name, there, h, hnone⟩ | ⟨name, there, h, hnone⟩)
    · cases h with
      | tag escaped => exact ⟨name, _, .tag escaped ps, hnone⟩
      | later p h => cases h
      | within _ he h => exact ⟨name, there, .within ps he h, hnone⟩
    · exact ⟨name, there, .later p h, hnone⟩

theorem trips_variable {name : Name} {escaped : Bool} :
    Trips values dots [.variable name escaped] ↔ (lookUp values dots name).HasNoText := by
  constructor
  · rintro ⟨name, there, h, hnone⟩
    cases h with
    | tag => exact hnone
    | later p h => cases h
  · intro hnone
    exact ⟨name, dots, .tag escaped [], hnone⟩

theorem trips_block {name : Name} {inverted : Bool} {body : List Part} :
    Trips values dots [.block name inverted body] ↔
      ∃ inner, entered? values dots name inverted = some inner ∧ Trips values inner body := by
  constructor
  · rintro ⟨name, there, h, hnone⟩
    cases h with
    | later p h => cases h
    | within ps he h => exact ⟨_, he, name, there, h, hnone⟩
  · rintro ⟨inner, he, name, there, h, hnone⟩
    exact ⟨name, there, .within [] he h, hnone⟩

theorem render?_block (name : Name) (inverted : Bool) (body : List Part) :
    Part.render? values dots (.block name inverted body) =
      match entered? values dots name inverted with
      | some inner => renderEach? values inner body
      | none => some [] := by
  rw [Part.render?, entered?]
  cases lookUp values dots name with
  | missing => cases inverted <;> rfl
  | everything => cases inverted <;> rfl
  | value v =>
    cases v with
    | flag b => cases b <;> cases inverted <;> rfl
    | text s => by_cases hskip : (inverted || s.isEmpty) = true <;> simp [hskip]

theorem render?_variable_eq_none_iff {name : Name} {escaped : Bool} :
    Part.render? values dots (.variable name escaped) = none ↔ (lookUp values dots name).HasNoText := by
  rw [Part.render?]
  cases lookUp values dots name with
  | missing => exact ⟨nofun, False.elim⟩
  | everything => exact ⟨fun _ => trivial, fun _ => rfl⟩
  | value v =>
    cases v with
    | flag b => exact ⟨fun _ => trivial, fun _ => rfl⟩
    | text s => exact ⟨nofun, False.elim⟩

mutual

theorem render?_eq_none_iff (dots : List Value) (p : Part) :
    p.render? values dots = none ↔ Trips values dots [p] := by
  match p with
  | .text cs =>
    constructor
    · intro h
      rw [Part.render?] at h
      cases h
    · rintro ⟨name, there, h, -⟩
      cases h with
      | later p h => cases h
  | .variable name escaped => rw [render?_variable_eq_none_iff, trips_variable]
  | .block name inverted body =>
    rw [render?_block, trips_block]
    cases entered? values dots name inverted with
    | none => simp
    | some inner => simp [renderEach?_eq_none_iff inner body]
  | .inclusion =>
    constructor
    · intro h
      rw [Part.render?] at h
      cases h
    · rintro ⟨name, there, h, -⟩
      cases h with
      | later p h => cases h

/-- There is no text where filling in comes to a tag for what has none. -/
theorem renderEach?_eq_none_iff (dots : List Value) (ps : List Part) :
    renderEach? values dots ps = none ↔ Trips values dots ps := by
  match ps with
  | [] =>
    rw [renderEach?]
    exact ⟨nofun, fun h => absurd h not_trips_nil⟩
  | p :: ps =>
    have hp := render?_eq_none_iff dots p
    have hps := renderEach?_eq_none_iff dots ps
    rw [trips_cons, ← hp, ← hps, renderEach?]
    cases p.render? values dots with
    | none => exact ⟨fun _ => .inl rfl, fun _ => rfl⟩
    | some cs =>
      cases renderEach? values dots ps with
      | none => exact ⟨fun _ => .inr rfl, fun _ => rfl⟩
      | some ds => exact ⟨nofun, fun h => by rcases h with h | h <;> cases h⟩

end

theorem Meets.dots_texts {name : Name} {there : List Value} {ps : List Part}
    (h : Meets values name there dots ps) (hdots : ∀ v ∈ dots, ∃ s, v = .text s) :
    ∀ v ∈ there, ∃ s, v = .text s := by
  induction h with
  | tag => exact hdots
  | later p h ih => exact ih hdots
  | within ps he h ih =>
    refine ih ?_
    rcases entered?_cases he with rfl | ⟨s, rfl⟩
    · exact hdots
    · exact List.forall_mem_cons.mpr ⟨⟨s, rfl⟩, hdots⟩

end Template

namespace Template

/-- A key under which there is a flag. -/
def IsFlag (values : Values) (k : String) : Prop := ∃ b, values.get? k = some (.flag b)

theorem not_isFlag_empty {k : String} : ¬IsFlag KeyMap.empty k := fun ⟨b, h⟩ => by cases h

theorem isFlag_insert_text {name k s : String} :
    IsFlag (values.insert name (.text s)) k ↔ k ≠ name ∧ IsFlag values k := by
  simp only [IsFlag, KeyMap.get?_insert]
  split <;> simp [*]

theorem isFlag_insert_flag {name k : String} {b : Bool} :
    IsFlag (values.insert name (.flag b)) k ↔ k = name ∨ IsFlag values k := by
  simp only [IsFlag, KeyMap.get?_insert]
  split <;> simp [*]

theorem hasNoText_lookUp_singleton {piece : List Char} :
    (lookUp values dots [piece]).HasNoText ↔ IsFlag values (String.ofList piece) := by
  rw [lookUp, IsFlag]
  cases values.get? (String.ofList piece) with
  | none => simp [Found.HasNoText]
  | some v => cases v <;> simp [Found.HasNoText]

end Template

namespace Finding

open Template (IsFlag isFlag_insert_text isFlag_insert_flag not_isFlag_empty)

theorem isFlag_mailValues_iff (f : Finding) {k : String} :
    IsFlag f.mailValues k ↔ k = "hasIndex" ∨ k = "hasUserId" := by
  simp only [mailValues, KeyMap.ofList, List.foldl_cons, List.foldl_nil]
  cases f.index <;> cases f.userId <;>
    simp only [isFlag_insert_text, isFlag_insert_flag, not_isFlag_empty, and_false, or_false] <;> grind

/-- Among the dots of sections for texts, the flags have no text, and the dot outside of all
sections. -/
theorem hasNoText_iff (f : Finding) {dots : List Template.Value} {name : Template.Name}
    (hdots : ∀ v ∈ dots, ∃ s, v = .text s) :
    (Template.lookUp f.mailValues dots name).HasNoText ↔
      (name = [] ∧ dots = []) ∨ name = ["hasIndex".toList] ∨ name = ["hasUserId".toList] := by
  match name with
  | [] =>
    cases dots with
    | nil => simp [Template.lookUp, Template.Found.HasNoText]
    | cons v dots =>
      obtain ⟨s, rfl⟩ := hdots v List.mem_cons_self
      simp [Template.lookUp, Template.Found.HasNoText]
  | [piece] =>
    rw [Template.hasNoText_lookUp_singleton, isFlag_mailValues_iff]
    simp [← String.toList_inj]
  | _ :: _ :: _ => simp [Template.lookUp, Template.Found.HasNoText]

/-- A template that, filled in about a finding, comes to a tag for one of the flags, or for the dot
outside of all sections for texts. -/
def Baffles (f : Finding) (t : Template) : Prop :=
  ∃ name there, Template.Meets f.mailValues name there [] t.parts ∧
    ((name = [] ∧ there = []) ∨ name = ["hasIndex".toList] ∨ name = ["hasUserId".toList])

theorem render?_eq_none_iff (f : Finding) {t : Template} :
    t.render? f.mailValues = none ↔ f.Baffles t := by
  rw [Template.render?, Option.map_eq_none_iff, Template.renderEach?_eq_none_iff, Template.Trips, Baffles]
  refine exists_congr fun name => exists_congr fun there => and_congr_right fun h => ?_
  exact f.hasNoText_iff (h.dots_texts fun v hv => absurd hv List.not_mem_nil)

end Finding

namespace MailSender

/-- The templates of a sender: of the subject, of the text and of the markup. -/
def templates (m : MailSender) : List Template := m.subject.toList ++ m.text.toList ++ m.html.toList

theorem fill_mailValues (f : Finding) (t : Option Template) :
    (∃ s, fill f.mailValues t = .ok s) ∧ (∀ x ∈ t, ¬f.Baffles x) ∨
      fill f.mailValues t = .error .panic ∧ ∃ x ∈ t, f.Baffles x := by
  cases t with
  | none => exact .inl ⟨⟨none, rfl⟩, fun x hx => by cases hx⟩
  | some t =>
    rw [fill]
    cases hr : t.render? f.mailValues with
    | none => exact .inr ⟨rfl, t, rfl, f.render?_eq_none_iff.mp hr⟩
    | some s =>
      refine .inl ⟨⟨some s, rfl⟩, ?_⟩
      rintro x ⟨⟩ hx
      rw [f.render?_eq_none_iff.mpr hx] at hr
      cases hr

/-- A sender with a recipient composes a mail, or panics where one of its templates is baffled. -/
theorem compose_cases {m : MailSender} (hr : addresses m.settings.recipients ≠ []) (f : Finding) :
    (∃ mail, m.compose f = .ok mail) ∧ (∀ t ∈ m.templates, ¬f.Baffles t) ∨
      m.compose f = .error .panic ∧ ∃ t ∈ m.templates, f.Baffles t := by
  have hmem (t : Template) : t ∈ m.templates ↔ t ∈ m.subject ∨ t ∈ m.text ∨ t ∈ m.html := by
    simp [templates]
  rw [compose, if_neg (by simpa using hr)]
  rcases fill_mailValues f m.subject with ⟨⟨subject, hs⟩, hsubject⟩ | ⟨hs, t, ht, hb⟩
  · rcases fill_mailValues f m.text with ⟨⟨text, hx⟩, htext⟩ | ⟨hx, t, ht, hb⟩
    · rcases fill_mailValues f m.html with ⟨⟨html, hh⟩, hhtml⟩ | ⟨hh, t, ht, hb⟩
      · left
        simp only [hs, hx, hh]
        refine ⟨⟨_, rfl⟩, fun t ht => ?_⟩
        rcases (hmem t).mp ht with ht | ht | ht
        · exact hsubject t ht
        · exact htext t ht
        · exact hhtml t ht
      · exact .inr ⟨by simp only [hs, hx, hh]; rfl, t, (hmem t).mpr (.inr (.inr ht)), hb⟩
    · exact .inr ⟨by simp only [hs, hx]; rfl, t, (hmem t).mpr (.inr (.inl ht)), hb⟩
  · exact .inr ⟨by simp only [hs]; rfl, t, (hmem t).mpr (.inl ht), hb⟩

end MailSender

end Sentinel
