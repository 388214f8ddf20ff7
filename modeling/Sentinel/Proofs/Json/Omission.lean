import Sentinel.Proofs.Json.Finding
/-!
# Members that are left out

A JSON value without some of its members, whichever they are and however deep they stand, and what a
record is read as from what remains: a member that is left out takes its default, and every other one is
read as if it stood alone.

1. `Json.without`: a value without the members at chosen places.
2. `Reads`: what is read from a value, with one rule for each kind of value.
3. `Reads.record`, `Gives.withDefault`: a record some members of which are left out.
-/

namespace Sentinel

/-- A step into a JSON value: to a member of an object, or to an item of an array. -/
inductive JsonStep where
  | member (name : String)
  | item (index : Nat)
deriving DecidableEq, Repr

/-- Which members of a JSON value are left out: those to which a chosen row of steps leads. -/
def Omission := List JsonStep → Bool

namespace Omission

def nothing : Omission := fun _ => false

def drops (o : Omission) (name : String) : Bool := o [.member name]

/-- What is left out within a member. -/
def within (o : Omission) (name : String) : Omission := fun steps => o (.member name :: steps)

/-- What is left out within an item. -/
def withinItem (o : Omission) (index : Nat) : Omission := fun steps => o (.item index :: steps)

/-- The default where a member is left out, and what it is given as where it is not. -/
def choose {α : Type} (o : Omission) (name : String) (default given : α) : α :=
  if o.drops name then default else given

@[simp]
theorem choose_nothing {α : Type} (name : String) (default given : α) :
    nothing.choose name default given = given := rfl

@[simp]
theorem within_nothing (name : String) : nothing.within name = nothing := rfl

@[simp]
theorem withinItem_nothing (index : Nat) : nothing.withinItem index = nothing := rfl

end Omission

namespace Json

mutual

/-- A value without the members that are left out, at every level. -/
def without (o : Omission) : Json → Json
  | .array items => .array (itemsWithout o.withinItem items)
  | .object members => .object (membersWithout o members)
  | j => j

/-- The items of an array, each without what is left out within it. -/
def itemsWithout (o : Nat → Omission) : List Json → List Json
  | [] => []
  | j :: js => without (o 0) j :: itemsWithout (fun i => o (i + 1)) js

/-- The members of an object that are not left out, each without what is left out within it. -/
def membersWithout (o : Omission) : List (String × Json) → List (String × Json)
  | [] => []
  | (name, j) :: ms =>
    if o.drops name then membersWithout o ms
    else (name, without (o.within name) j) :: membersWithout o ms

end

theorem itemsWithout_eq (o : Nat → Omission) (js : List Json) :
    itemsWithout o js = js.mapIdx fun i j => j.without (o i) := by
  induction js generalizing o with
  | nil => rfl
  | cons j js ih =>
    rw [itemsWithout, ih, List.mapIdx_cons]

theorem membersWithout_eq (o : Omission) (ms : List (String × Json)) :
    membersWithout o ms =
      (ms.filter fun m => !o.drops m.1).map fun m => (m.1, m.2.without (o.within m.1)) := by
  induction ms with
  | nil => rfl
  | cons m ms ih =>
    rw [membersWithout, ih, List.filter_cons]
    cases o.drops m.1 <;> simp

theorem without_ofTexts (o : Omission) (ts : List String) : (ofTexts ts).without o = ofTexts ts := by
  rw [ofTexts, without, itemsWithout_eq]
  generalize o.withinItem = os
  induction ts generalizing os with
  | nil => rfl
  | cons t ts ih =>
    have hrest := Json.array.inj (ih fun i => os (i + 1))
    rw [List.map_cons, List.mapIdx_cons, hrest]
    rfl

mutual

theorem without_nothing : ∀ j : Json, j.without .nothing = j
  | .null => rfl
  | .bool _ => rfl
  | .number _ => rfl
  | .string _ => rfl
  | .array items => congrArg Json.array (itemsWithout_nothing items)
  | .object members => congrArg Json.object (membersWithout_nothing members)

theorem itemsWithout_nothing : ∀ js : List Json, itemsWithout (fun _ => .nothing) js = js
  | [] => rfl
  | j :: js => by rw [itemsWithout, without_nothing j, itemsWithout_nothing js]

theorem membersWithout_nothing : ∀ ms : List (String × Json), membersWithout .nothing ms = ms
  | [] => rfl
  | (name, j) :: ms => by
    rw [membersWithout, Omission.within_nothing, without_nothing j, membersWithout_nothing ms]
    rfl

end

theorem eq_null_of_document? {j : Json} (h : j.document? = some .null) : j = .null := by
  cases j with
  | null => rfl
  | bool b => cases h
  | number n =>
    obtain ⟨t, -, ht⟩ := Option.map_eq_some_iff.mp h
    cases ht
  | string s => cases h
  | array items =>
    obtain ⟨ds, -, hds⟩ := Option.map_eq_some_iff.mp h
    cases hds
  | object members =>
    obtain ⟨ds, -, hds⟩ := Option.map_eq_some_iff.mp h
    cases hds

end Json

/-- A value can be written, and what was written is read as `v`. -/
def Reads {α : Type} (read : Document → Option α) (j : Json) (v : α) : Prop :=
  ∃ d, j.document? = some d ∧ read d = some v

namespace Reads

variable {α : Type} {read : Document → Option α} {j : Json} {v : α}

theorem exists_document (h : Reads read j v) : ∃ d, j.document? = some d := by
  obtain ⟨d, hd, -⟩ := h
  exact ⟨d, hd⟩

theorem bind_parse? (h : Reads read j v) : (Document.parse? j.compact).bind read = some v := by
  obtain ⟨d, hd, hread⟩ := h
  rw [Document.parse?_compact hd, Option.bind_some, hread]

theorem text (s : String) : Reads Document.text? (.string s) s := ⟨_, rfl, rfl⟩

theorem bool (b : Bool) : Reads Document.bool? (.bool b) b := ⟨_, rfl, rfl⟩

theorem propertyType (t : PropertyType) : Reads PropertyType.ofDocument? (.string t.canonicalName) t :=
  ⟨_, rfl, PropertyType.ofDocument?_canonicalName t⟩

theorem int {lo hi i : Int} (hlo : Int64.minValue.toInt ≤ lo) (hhi : hi ≤ Int64.maxValue.toInt)
    (h : lo ≤ i ∧ i ≤ hi) : Reads (Document.intWithin? lo hi) (.ofInt i) i := by
  have hmin : Int64.minValue.toInt = -9223372036854775808 := by decide
  have hmax : Int64.maxValue.toInt = 9223372036854775807 := by decide
  have hsize : UInt64.size = 18446744073709551616 := rfl
  exact ⟨_, rfl, Document.intWithin?_numberOf (by omega) (by omega) h⟩

theorem word {n : Nat} (h : n < UInt64.size) : Reads Document.word? (.ofNat n) n :=
  ⟨_, rfl, Document.word?_numberOf h⟩

theorem null : Reads (Document.nullable? read) .null none := ⟨_, rfl, rfl⟩

theorem given (h : Reads read j v) (hj : j ≠ .null) : Reads (Document.nullable? read) j (some v) := by
  obtain ⟨d, hd, hread⟩ := h
  refine ⟨d, hd, ?_⟩
  rw [Document.nullable?, hread]
  · rfl
  · rintro rfl
    exact hj (Json.eq_null_of_document? hd)

theorem list {js : List Json} {vs : List α} (h : List.Forall₂ (Reads read) js vs) :
    Reads (Document.list? read) (.array js) vs := by
  have hitems : ∃ ds, Json.itemDocuments? js = some ds ∧ ds.mapM read = some vs := by
    induction h with
    | nil => exact ⟨[], rfl, rfl⟩
    | cons h _ ih =>
      obtain ⟨d, hd, hread⟩ := h
      obtain ⟨ds, hds, hmap⟩ := ih
      refine ⟨d :: ds, ?_, ?_⟩
      · rw [Json.itemDocuments?, hd, Option.bind_some, hds, Option.map_some]
      · rw [List.mapM_cons, hread, hmap]
        rfl
  obtain ⟨ds, hds, hmap⟩ := hitems
  exact ⟨.array ds, by rw [Json.document?, hds, Option.map_some], hmap⟩

theorem texts (ts : List String) : Reads (Document.list? Document.text?) (.ofTexts ts) ts := by
  apply list
  induction ts with
  | nil => exact .nil
  | cons t ts ih => exact .cons (text t) ih

theorem items {β : Type} {f : β → Json} {g : Nat → β → α} {o : Omission} (xs : List β)
    (h : ∀ i, ∀ x ∈ xs, Reads read ((f x).without (o.withinItem i)) (g i x)) :
    Reads (Document.list? read) ((Json.array (xs.map f)).without o) (xs.mapIdx g) := by
  rw [Json.without, Json.itemsWithout_eq]
  apply list
  generalize o.withinItem = os at h ⊢
  induction xs generalizing os g with
  | nil => exact .nil
  | cons x xs ih =>
    rw [List.map_cons, List.mapIdx_cons, List.mapIdx_cons]
    have hrest : ∀ i, ∀ y ∈ xs, Reads read ((f y).without (os (i + 1))) (g (i + 1) y) :=
      fun i y hy => h (i + 1) y (List.mem_cons_of_mem x hy)
    exact .cons (h 0 x List.mem_cons_self) (ih _ hrest)

end Reads

variable {o : Omission} {f : Document.Fields} {m : String × Json}

/-- The fields of a record give a member, unless it is left out. -/
def Gives (o : Omission) (f : Document.Fields) (m : String × Json) : Prop :=
  f.find? m.1 = if o.drops m.1 then none else (m.2.without (o.within m.1)).document?

theorem Gives.withDefault {α : Type} {read : Document → Option α} {v : α} (h : Gives o f m)
    (hread : Reads read (m.2.without (o.within m.1)) v) (default : α) :
    f.withDefault m.1 read default = some (o.choose m.1 default v) := by
  obtain ⟨d, hd, hread⟩ := hread
  rw [Document.Fields.withDefault, Omission.choose, h]
  cases o.drops m.1 with
  | true => rfl
  | false =>
    simp only [Bool.false_eq_true, if_false, hd]
    exact hread

theorem find?_of_stands {ms : List (String × Json)} {es : List (String × Document)}
    (h : List.Forall₂ Json.Stands ms es) (hnodup : (es.map (·.1)).Nodup) (hm : m ∈ ms) :
    Document.Fields.find? ⟨false, es⟩ m.1 = m.2.document? := by
  obtain ⟨e, he, hname, hdoc⟩ : ∃ e ∈ es, Json.Stands m e := by
    induction h with
    | nil => cases hm
    | @cons n e ms es hstands _ ih =>
      rcases List.mem_cons.mp hm with rfl | hm
      · exact ⟨e, List.mem_cons_self, hstands⟩
      · obtain ⟨e', he', hstands'⟩ := ih (List.nodup_cons.mp hnodup).2 hm
        exact ⟨e', List.mem_cons_of_mem e he', hstands'⟩
  rw [hdoc, hname]
  exact (Document.Fields.find?_eq_some_iff hnodup).mpr he

theorem find?_eq_none {es : List (String × Document)} {name : String} (h : name ∉ es.map (·.1)) :
    Document.Fields.find? ⟨false, es⟩ name = none := by
  rw [Document.Fields.find?, Option.map_eq_none_iff, List.find?_eq_none]
  intro e he hname
  exact h (decide_eq_true_eq.mp hname ▸ List.mem_map_of_mem he)

/-- A record is read from the members that are not left out. -/
theorem Reads.record {α : Type} {read : Document → Option α} {v : α} {ms : List (String × Json)}
    (names : List String) (hnames : ms.map (·.1) = names) (hnodup : names.Nodup)
    (hdocs : ms.Forall fun m => ∃ d, (m.2.without (o.within m.1)).document? = some d)
    (hread : ∀ d f, d.fields? names = some f → ms.Forall (Gives o f) → read d = some v) :
    Reads read ((Json.object ms).without o) v := by
  have hwritten : ∀ m ∈ Json.membersWithout o ms, ∃ d, m.2.document? = some d := by
    intro m hm
    rw [Json.membersWithout_eq] at hm
    obtain ⟨n, hn, rfl⟩ := List.mem_map.mp hm
    exact List.forall_iff_forall_mem.mp hdocs n (List.mem_of_mem_filter hn)
  obtain ⟨es, hes⟩ := Json.exists_stands hwritten
  have hkept : es.map (·.1) = (ms.filter fun m => !o.drops m.1).map (·.1) := by
    rw [← Json.map_fst_of_stands hes, Json.membersWithout_eq, List.map_map]
    rfl
  have hsub : (es.map (·.1)).Sublist names := by
    rw [hkept, ← hnames]
    exact List.filter_sublist.map _
  have hfilter : es.filter (names.contains ·.1) = es :=
    List.filter_eq_self.mpr fun e he =>
      List.contains_iff_mem.mpr (hsub.subset (List.mem_map_of_mem he))
  have hdistinct : ((es.filter (names.contains ·.1)).map (·.1)).Nodup := by
    rw [hfilter]
    exact hsub.nodup hnodup
  have hfields := Document.fields?_object hdistinct
  rw [hfilter] at hfields
  refine ⟨_, Json.document?_object hes, hread _ _ hfields (List.forall_iff_forall_mem.mpr ?_)⟩
  intro m hm
  rw [Gives]
  cases hdrop : o.drops m.1 with
  | true =>
    apply find?_eq_none
    rw [hkept, List.mem_map]
    rintro ⟨n, hn, hname⟩
    have hn := (List.mem_filter.mp hn).2
    rw [hname, hdrop] at hn
    cases hn
  | false =>
    have hmem : (m.1, m.2.without (o.within m.1)) ∈ Json.membersWithout o ms := by
      rw [Json.membersWithout_eq]
      exact List.mem_map.mpr ⟨m, List.mem_filter.mpr ⟨hm, by simp [hdrop]⟩, rfl⟩
    exact find?_of_stands hes (hsub.nodup hnodup) hmem

end Sentinel
