import Mathlib.Data.List.Perm.Basic
import Sentinel.Json.Record
import Sentinel.Proofs.Json.RoundTrip
/-!
# Members in any order

A record is read from its members by their names. The order in which they are written makes no
difference, and neither do members of other names, whatever can be written for them.

1. `exists_document`: every value whose binary numbers are finite has a tree.
2. `fields?_object`: the members that a record asks for, in the order in which they stand.
3. `Fields.Agrees`: fields that give the same for every name are read alike.
4. `readsAnyhow`: a record among other members, in any order.
-/

namespace Sentinel

namespace Json

/-- A value that can be written: its binary numbers are finite. -/
inductive IsPrintable : Json → Prop
  | null : IsPrintable .null
  | bool (b : Bool) : IsPrintable (.bool b)
  | int (i : Int) : IsPrintable (.number (.int i))
  | real {x : Decimal.Binary64} (hx : x.IsFinite) : IsPrintable (.number (.real x))
  | string (s : String) : IsPrintable (.string s)
  | array {items : List Json} (hitems : ∀ j ∈ items, IsPrintable j) : IsPrintable (.array items)
  | object {members : List (String × Json)} (hmembers : ∀ m ∈ members, IsPrintable m.2) :
    IsPrintable (.object members)

def members : Json → List (String × Json)
  | .object ms => ms
  | _ => []

/-- A member and the same member as a tree. -/
def Stands (m : String × Json) (e : String × Document) : Prop := m.1 = e.1 ∧ m.2.document? = some e.2

variable {ms : List (String × Json)} {es : List (String × Document)}

theorem memberDocuments?_eq_some_iff :
    memberDocuments? ms = some (es.map fun e => (some e.1, e.2)) ↔ List.Forall₂ Stands ms es := by
  constructor
  · intro h
    induction ms generalizing es with
    | nil =>
      rcases es with _ | ⟨e, es⟩
      · exact .nil
      · cases h
    | cons m ms ih =>
      obtain ⟨d, hd, h⟩ := Option.bind_eq_some_iff.mp h
      obtain ⟨ds, hds, h⟩ := Option.map_eq_some_iff.mp h
      rcases es with _ | ⟨e, es⟩
      · cases h
      · rw [List.map_cons, List.cons.injEq, Prod.mk.injEq, Option.some.injEq] at h
        obtain ⟨⟨hname, rfl⟩, rfl⟩ := h
        exact .cons ⟨hname, hd⟩ (ih hds)
  · intro h
    induction h with
    | nil => rfl
    | @cons m e ms es h _ ih =>
      rw [memberDocuments?, h.2, Option.bind_some, ih, Option.map_some, List.map_cons, h.1]

theorem map_fst_of_stands (h : List.Forall₂ Stands ms es) : ms.map (·.1) = es.map (·.1) := by
  induction h with
  | nil => rfl
  | cons h _ ih => rw [List.map_cons, List.map_cons, h.1, ih]

theorem document?_object (h : List.Forall₂ Stands ms es) :
    (Json.object ms).document? = some (.object (es.map fun e => (some e.1, e.2))) := by
  rw [document?, memberDocuments?_eq_some_iff.mpr h, Option.map_some]

theorem exists_itemDocuments {items : List Json} (h : ∀ j ∈ items, ∃ d, j.document? = some d) :
    ∃ ds, itemDocuments? items = some ds := by
  induction items with
  | nil => exact ⟨[], rfl⟩
  | cons j js ih =>
    obtain ⟨d, hd⟩ := h j List.mem_cons_self
    obtain ⟨ds, hds⟩ := ih fun j hj => h j (List.mem_cons_of_mem _ hj)
    exact ⟨d :: ds, by rw [itemDocuments?, hd, Option.bind_some, hds, Option.map_some]⟩

theorem exists_stands (h : ∀ m ∈ ms, ∃ d, m.2.document? = some d) :
    ∃ es : List (String × Document), List.Forall₂ Stands ms es := by
  induction ms with
  | nil => exact ⟨[], .nil⟩
  | cons m ms ih =>
    obtain ⟨d, hd⟩ := h m List.mem_cons_self
    obtain ⟨es, hes⟩ := ih fun m hm => h m (List.mem_cons_of_mem _ hm)
    exact ⟨(m.1, d) :: es, .cons ⟨rfl, hd⟩ hes⟩

theorem IsPrintable.exists_document {j : Json} (h : j.IsPrintable) : ∃ d, j.document? = some d := by
  induction h with
  | null => exact ⟨_, rfl⟩
  | bool b => exact ⟨_, rfl⟩
  | int i => exact ⟨_, rfl⟩
  | real hx => exact ⟨_, by rw [document?, written?, if_pos hx, Option.map_some]⟩
  | string s => exact ⟨_, rfl⟩
  | array _ ih =>
    obtain ⟨ds, hds⟩ := exists_itemDocuments ih
    exact ⟨_, by rw [document?, hds, Option.map_some]⟩
  | object _ ih =>
    obtain ⟨es, hes⟩ := exists_stands ih
    exact ⟨_, document?_object hes⟩

end Json

namespace Document

variable {names : List String} {es : List (String × Document)}

theorem mapM_named (es : List (String × Document)) :
    (es.map fun e => (some e.1, e.2)).mapM (fun m => m.1.map (·, m.2)) = some es := by
  induction es with
  | nil => rfl
  | cons e es ih =>
    rw [List.map_cons, List.mapM_cons, ih]
    rfl

/-- Of the members of an object, those that are asked for, in the order in which they stand. -/
theorem fields?_object (hnodup : ((es.filter (names.contains ·.1)).map (·.1)).Nodup) :
    (Document.object (es.map fun e => (some e.1, e.2))).fields? names =
      some ⟨false, es.filter (names.contains ·.1)⟩ := by
  rw [fields?, mapM_named, Option.bind_eq_bind, Option.bind_some]
  exact if_pos hnodup

namespace Fields

variable {f g : Fields} {α : Type}

/-- Fields that give the same for every name. -/
structure Agrees (f g : Fields) : Prop where
  positional : f.positional = g.positional
  find? : ∀ name, f.find? name = g.find? name

theorem Agrees.required (h : f.Agrees g) (name : String) (read : Document → Option α) :
    f.required name read = g.required name read := by
  rw [Fields.required, Fields.required, h.find?]

theorem Agrees.optional (h : f.Agrees g) (name : String) (read : Document → Option α) :
    f.optional name read = g.optional name read := by
  rw [Fields.optional, Fields.optional, h.find?, h.positional]

theorem Agrees.withDefault (h : f.Agrees g) (name : String) (read : Document → Option α) (default : α) :
    f.withDefault name read default = g.withDefault name read default := by
  rw [Fields.withDefault, Fields.withDefault, h.find?]

theorem find?_eq_some_iff {f : Fields} (hnodup : (f.present.map (·.1)).Nodup) {name : String} {d : Document} :
    f.find? name = some d ↔ (name, d) ∈ f.present := by
  rw [Fields.find?, Option.map_eq_some_iff]
  constructor
  · rintro ⟨e, he, rfl⟩
    have hname : e.1 = name := by simpa using List.find?_some he
    exact hname ▸ List.mem_of_find?_eq_some he
  · intro hmem
    obtain ⟨e, he⟩ : ∃ e, f.present.find? (·.1 = name) = some e := by
      rw [← Option.isSome_iff_exists, List.find?_isSome]
      exact ⟨(name, d), hmem, by simp⟩
    have hname : e.1 = name := by simpa using List.find?_some he
    have heq := List.inj_on_of_nodup_map hnodup (List.mem_of_find?_eq_some he) hmem hname
    exact ⟨e, he, congrArg Prod.snd heq⟩

/-- The order of the members makes no difference. -/
theorem agrees_of_perm {positional : Bool} {ds : List (String × Document)} (hperm : es.Perm ds)
    (hnodup : (ds.map (·.1)).Nodup) : Agrees ⟨positional, es⟩ ⟨positional, ds⟩ := by
  refine ⟨rfl, fun name => Option.ext fun d => ?_⟩
  have hnodup' : (es.map (·.1)).Nodup := (hperm.map _).nodup_iff.mpr hnodup
  rw [find?_eq_some_iff hnodup', find?_eq_some_iff hnodup]
  exact hperm.mem_iff

end Fields

/-- The members that a record asks for, in any order and among others. -/
theorem exists_fields {own others ms : List (String × Json)} {ds : List (String × Document)}
    (hown : List.Forall₂ Json.Stands own ds) (hknown : ∀ e ∈ ds, e.1 ∈ names)
    (hnodup : (ds.map (·.1)).Nodup) (hothers : ∀ m ∈ others, m.1 ∉ names ∧ m.2.IsPrintable)
    (hperm : ms.Perm (own ++ others)) :
    ∃ d f, (Json.object ms).document? = some d ∧ d.fields? names = some f ∧ f.Agrees ⟨false, ds⟩ := by
  obtain ⟨rest, hrest⟩ := Json.exists_stands fun m hm => (hothers m hm).2.exists_document
  obtain ⟨es, hes, hperm'⟩ := List.perm_comp_forall₂ hperm (List.rel_append hown hrest)
  have hdrop : rest.filter (names.contains ·.1) = [] := by
    rw [List.filter_eq_nil_iff]
    intro e he hcontains
    obtain ⟨m, hm, hname⟩ : ∃ m ∈ others, m.1 = e.1 := by
      rw [← List.mem_map, Json.map_fst_of_stands hrest]
      exact List.mem_map_of_mem he
    exact (hothers m hm).1 (hname ▸ List.contains_iff_mem.mp hcontains)
  have hkeep : ds.filter (names.contains ·.1) = ds :=
    List.filter_eq_self.mpr fun e he => List.contains_iff_mem.mpr (hknown e he)
  have hfiltered : (es.filter (names.contains ·.1)).Perm ds := by
    have := hperm'.filter (names.contains ·.1)
    rwa [List.filter_append, hdrop, hkeep, List.append_nil] at this
  refine ⟨_, _, Json.document?_object hes, fields?_object ?_, Fields.agrees_of_perm hfiltered hnodup⟩
  exact (hfiltered.map _).nodup_iff.mpr hnodup

end Document

/-- The members of an object are read as a value in any order and among members of other names. -/
def ReadsAnyhow {α : Type} (parse? : String → Option α) (names : List String) (j : Json) (v : α) : Prop :=
  ∀ others ms : List (String × Json), (∀ m ∈ others, m.1 ∉ names ∧ m.2.IsPrintable) →
    ms.Perm (j.members ++ others) → parse? (Json.object ms).compact = some v

namespace ReadsAnyhow

variable {α : Type} {names : List String} {v : α}

/-- A reader that goes by the names of the members reads them anyhow. -/
theorem of_fields {read : Document → Option α} {own : List (String × Json)} {ds : List (String × Document)}
    (hown : List.Forall₂ Json.Stands own ds) (hknown : ∀ e ∈ ds, e.1 ∈ names)
    (hnodup : (ds.map (·.1)).Nodup)
    (hread : ∀ d f, d.fields? names = some f → f.Agrees ⟨false, ds⟩ → read d = some v) :
    ReadsAnyhow (fun s => (Document.parse? s).bind read) names (.object own) v := by
  intro others ms hothers hperm
  obtain ⟨d, f, hd, hf, hagrees⟩ := Document.exists_fields hown hknown hnodup hothers hperm
  show (Document.parse? _).bind read = some v
  rw [Document.parse?_compact hd, Option.bind_some]
  exact hread d f hf hagrees

theorem parse?_compact {parse? : String → Option α} {own : List (String × Json)}
    (h : ReadsAnyhow parse? names (.object own) v) : parse? (Json.object own).compact = some v := by
  refine h [] own (fun m hm => absurd hm List.not_mem_nil) ?_
  rw [List.append_nil]
  exact .rfl

end ReadsAnyhow

end Sentinel
