import Mathlib.Tactic.Tauto
import Sentinel.Proofs.Json.Finding
import Sentinel.Sinks
/-!
# Facts about a finding

The texts and whole numbers that a finding consists of, each under its name. Whoever is told of a finding
is told these: in a JSON text, in a map of properties, or in the values that a mail is made of.

1. `Json.parse?_object`: a text of members with texts and whole numbers is read as the map of them.
2. `Finding.erase_ofList_members`: the JSON text and the properties have the same facts, but for the type.
3. `Finding.get?_mailValues`: every fact is spelled out in mails.
-/

namespace Sentinel

namespace KeyMap

variable {α : Type}

theorem get?_ofList_eq_some_iff {es : List (String × α)} (h : (es.map (·.1)).Nodup) {k : String} {v : α} :
    (ofList es).get? k = some v ↔ (k, v) ∈ es := by
  have hfold : ∀ m : KeyMap α, (es.foldl (fun m e => m.insert e.1 e.2) m).get? k = some v ↔
      (k, v) ∈ es ∨ k ∉ es.map (·.1) ∧ m.get? k = some v := by
    induction es with
    | nil => simp
    | cons e es ih =>
      intro m
      obtain ⟨hfresh, hrest⟩ := List.nodup_cons.mp h
      rw [List.foldl_cons, ih hrest, get?_insert]
      by_cases hk : k = e.1
      · subst hk
        have hnot : (e.1, v) ∉ es := fun hmem => hfresh (List.mem_map.mpr ⟨_, hmem, rfl⟩)
        simp [hnot, hfresh, Prod.ext_iff, eq_comm]
      · simp [hk, Prod.ext_iff]
  rw [ofList, hfold empty]
  simp

end KeyMap

namespace Json

/-- A text, or a whole number that a word can hold. -/
def IsFact : Json → Prop
  | .string _ => True
  | .number (.int i) => -(UInt64.size / 2 : Int) ≤ i ∧ i < UInt64.size
  | _ => False

/-- A value spelled out: a text as it is, and all else as it is written. -/
def spelled : Json → String
  | .string s => s
  | j => j.compact

@[simp]
theorem spelled_string (s : String) : (Json.string s).spelled = s := rfl

@[simp]
theorem spelled_ofInt (i : Int) : (ofInt i).spelled = Text.intText i := rfl

@[simp]
theorem spelled_ofNat (n : Nat) : (ofNat n).spelled = Text.natText n := by
  show String.ofList (Text.signedDecimal n) = _
  rw [Text.signedDecimal, if_neg (by omega), Int.natAbs_natCast]
  rfl

theorem toJson?_of_isFact {j : Json} (hj : j.IsFact) {d : Document} (hd : j.document? = some d)
    (levels : Nat) : d.toJson? levels = some j := by
  cases j with
  | string s =>
    cases hd
    rfl
  | number n =>
    cases n with
    | int i =>
      cases hd
      have hread := Document.integer?_numberOf hj.1 hj.2
      rw [Document.toJson?, NumberText.toNumber?, hread]
      rfl
    | real x => cases hj
  | null => cases hj
  | bool b => cases hj
  | array items => cases hj
  | object members => cases hj

theorem membersToJson?_of_stands {ms : List (String × Json)} {es : List (String × Document)}
    (h : List.Forall₂ Stands ms es) (hfacts : ∀ m ∈ ms, m.2.IsFact) (levels : Nat) :
    Document.membersToJson? levels (es.map fun e => (some e.1, e.2)) = some ms := by
  induction h with
  | nil => rfl
  | @cons m e ms es hm _ ih =>
    obtain ⟨hname, hdoc⟩ := hm
    obtain ⟨hfact, hrest⟩ := List.forall_mem_cons.mp hfacts
    simp only [List.map_cons, Document.membersToJson?, toJson?_of_isFact hfact hdoc, ih hrest, ← hname]

/-- Members with texts and whole numbers are read as the map of them. -/
theorem parse?_object {ms : List (String × Json)} {es : List (String × Document)}
    (h : List.Forall₂ Stands ms es) (hfacts : ∀ m ∈ ms, m.2.IsFact) :
    parse? (Json.object ms).compact = some (.ofAttributes (.ofList ms)) := by
  rw [parse?, Document.parse?_compact (document?_object h), Option.bind_eq_bind, Option.bind_some, maxLevels,
    Document.toJson?, membersToJson?_of_stands h hfacts]
  rfl

end Json

namespace Finding

/-- What is told of a finding besides its type, under the names by which it is told. -/
def facts (f : Finding) : List (String × Json) :=
  [("path", .string f.path), ("timestamp", .ofInt f.timestamp), ("message", .string f.message),
    ("status", .string f.status.canonicalName), ("started", .ofInt f.started), ("size", .ofNat f.size)] ++
  (Json.member? "index" (f.index.map .ofNat) ++ Json.member? "userId" (f.userId.map .string))

theorem mem_facts {f : Finding} {m : String × Json} : m ∈ f.facts ↔
    m = ("path", .string f.path) ∨ m = ("timestamp", .ofInt f.timestamp) ∨
    m = ("message", .string f.message) ∨ m = ("status", .string f.status.canonicalName) ∨
    m = ("started", .ofInt f.started) ∨ m = ("size", .ofNat f.size) ∨
    (∃ i ∈ f.index, m = ("index", .ofNat i)) ∨ ∃ u ∈ f.userId, m = ("userId", .string u) := by
  obtain ⟨timestamp, status, message, started, size, path, index, propertyType, userId⟩ := f
  cases index <;> cases userId <;> simp [facts, Json.member?]

theorem properties_eq (f : Finding) : f.properties = .ofList f.facts := by
  obtain ⟨timestamp, status, message, started, size, path, index, propertyType, userId⟩ := f
  cases index <;> cases userId <;> rfl

theorem map_fst_facts (f : Finding) : (f.facts.map (·.1)).Sublist
    ["path", "timestamp", "message", "status", "started", "size", "index", "userId"] := by
  obtain ⟨timestamp, status, message, started, size, path, index, propertyType, userId⟩ := f
  cases index <;> cases userId <;> simp [facts, Json.member?]

theorem nodup_facts (f : Finding) : (f.facts.map (·.1)).Nodup := f.map_fst_facts.nodup (by decide)

theorem get?_properties {f : Finding} {k : String} {j : Json} :
    f.properties.get? k = some j ↔ (k, j) ∈ f.facts := by
  rw [properties_eq, KeyMap.get?_ofList_eq_some_iff f.nodup_facts]

theorem get?_properties_eq_none {f : Finding} {k : String} (hk : k ∉
    ["path", "timestamp", "message", "status", "started", "size", "index", "userId"]) :
    f.properties.get? k = none := by
  rw [Option.eq_none_iff_forall_not_mem]
  intro j hj
  exact hk (f.map_fst_facts.subset (List.mem_map_of_mem (get?_properties.mp hj)))

theorem mem_members {f : Finding} {m : String × Json} : m ∈ f.toJson.members ↔
    m = ("propertyType", .string f.propertyType.canonicalName) ∨ m ∈ f.facts := by
  obtain ⟨timestamp, status, message, started, size, path, index, propertyType, userId⟩ := f
  cases index <;> cases userId <;> simp [toJson, facts, Json.members, Json.member?] <;> tauto

theorem nodup_members (f : Finding) : (f.toJson.members.map (·.1)).Nodup := by
  rw [Json.map_fst_of_stands f.stands_documents]
  exact f.map_fst_documents.1.nodup (by decide)

theorem isFact_of_mem_members {f : Finding} (h : f.FitsWords) {m : String × Json}
    (hm : m ∈ f.toJson.members) : m.2.IsFact := by
  have hsize : UInt64.size = 18446744073709551616 := rfl
  have hmin : Int64.minValue.toInt = -9223372036854775808 := by decide
  have hmax : Int64.maxValue.toInt = 9223372036854775807 := by decide
  have hnumber {i : Int} (hlo : -9223372036854775808 ≤ i) (hhi : i < 18446744073709551616) :
      (Json.ofInt i).IsFact := ⟨by omega, by omega⟩
  have htimestamp := h.timestamp
  have hstarted := h.started
  have hbytes := h.size
  rcases mem_members.mp hm with rfl | hm
  · trivial
  · rcases mem_facts.mp hm with rfl | rfl | rfl | rfl | rfl | rfl | ⟨i, hi, rfl⟩ | ⟨u, -, rfl⟩
    · trivial
    · exact hnumber (by omega) (by omega)
    · trivial
    · trivial
    · exact hnumber (by omega) (by omega)
    · exact hnumber (by omega) (by omega)
    · have hindex := h.index i hi
      exact hnumber (by omega) (by omega)
    · trivial

theorem json_parse?_toJson {f : Finding} (h : f.FitsWords) :
    Json.parse? f.toJson.compact = some (.ofAttributes (.ofList f.toJson.members)) :=
  Json.parse?_object f.stands_documents fun _ hm => isFact_of_mem_members h hm

theorem erase_ofList_members (f : Finding) :
    (KeyMap.ofList f.toJson.members).erase "propertyType" = f.properties := by
  apply KeyMap.ext_get?
  intro k
  rw [KeyMap.get?_erase]
  by_cases hk : k = "propertyType"
  · subst hk
    rw [if_pos rfl, get?_properties_eq_none (by decide)]
  · rw [if_neg hk]
    apply Option.ext
    intro j
    rw [KeyMap.get?_ofList_eq_some_iff f.nodup_members, mem_members, get?_properties]
    simp [hk]

theorem get?_propertyType (f : Finding) : (KeyMap.ofList f.toJson.members).get? "propertyType" =
    some (.string f.propertyType.canonicalName) := by
  rw [KeyMap.get?_ofList_eq_some_iff f.nodup_members, mem_members]
  exact .inl rfl

theorem erase_recordOf (f : Finding) :
    (PersisterSettings.recordOf f).erase "resourceType" = f.properties := by
  apply KeyMap.ext_get?
  intro k
  rw [KeyMap.get?_erase, PersisterSettings.recordOf, KeyMap.get?_insert]
  by_cases hk : k = "resourceType"
  · subst hk
    rw [if_pos rfl, get?_properties_eq_none (by decide)]
  · rw [if_neg hk, if_neg hk]

/-- The values that mails are made of. -/
def mailFacts (f : Finding) : List (String × Template.Value) :=
  [("status", .text f.status.canonicalName), ("message", .text f.message), ("path", .text f.path),
    ("propertyType", .text f.propertyType.canonicalName), ("size", .text (Text.natText f.size)),
    ("started", .text (Text.intText f.started)), ("timestamp", .text (Text.intText f.timestamp)),
    ("startedIso", .text (isoText f.started)), ("timestampIso", .text (isoText f.timestamp)),
    ("hasIndex", .flag f.index.isSome), ("hasUserId", .flag f.userId.isSome)] ++
  ((f.index.map fun i => ("index", Template.Value.text (Text.natText i))).toList ++
    (f.userId.map fun u => ("userId", Template.Value.text u)).toList)

theorem mailValues_eq (f : Finding) : f.mailValues = .ofList f.mailFacts := by
  obtain ⟨timestamp, status, message, started, size, path, index, propertyType, userId⟩ := f
  cases index <;> cases userId <;> rfl

theorem nodup_mailFacts (f : Finding) : (f.mailFacts.map (·.1)).Nodup := by
  have hsub : (f.mailFacts.map (·.1)).Sublist ["status", "message", "path", "propertyType", "size",
      "started", "timestamp", "startedIso", "timestampIso", "hasIndex", "hasUserId", "index", "userId"] := by
    obtain ⟨timestamp, status, message, started, size, path, index, propertyType, userId⟩ := f
    cases index <;> cases userId <;> simp [mailFacts]
  exact hsub.nodup (by decide)

theorem get?_mailValues {f : Finding} {k : String} {v : Template.Value} :
    f.mailValues.get? k = some v ↔ (k, v) ∈ f.mailFacts := by
  rw [mailValues_eq, KeyMap.get?_ofList_eq_some_iff f.nodup_mailFacts]

theorem contains_index (f : Finding) : f.properties.contains "index" = f.index.isSome ∧
    f.mailValues.contains "index" = f.index.isSome := by
  constructor
  · rw [Bool.eq_iff_iff, KeyMap.contains, Option.isSome_iff_exists]
    simp [get?_properties, mem_facts, Option.isSome_iff_exists]
  · rw [Bool.eq_iff_iff, KeyMap.contains, Option.isSome_iff_exists]
    simp [get?_mailValues, mailFacts, Option.isSome_iff_exists]

theorem contains_userId (f : Finding) : f.properties.contains "userId" = f.userId.isSome ∧
    f.mailValues.contains "userId" = f.userId.isSome := by
  constructor
  · rw [Bool.eq_iff_iff, KeyMap.contains, Option.isSome_iff_exists]
    simp [get?_properties, mem_facts, Option.isSome_iff_exists]
  · rw [Bool.eq_iff_iff, KeyMap.contains, Option.isSome_iff_exists]
    simp [get?_mailValues, mailFacts, Option.isSome_iff_exists]

/-- The flags of a mail say whether the finding has an index and a user. -/
theorem get?_flags (f : Finding) : f.mailValues.get? "hasIndex" = some (.flag f.index.isSome) ∧
    f.mailValues.get? "hasUserId" = some (.flag f.userId.isSome) := by
  rw [get?_mailValues, get?_mailValues]
  simp [mailFacts]

/-- Every fact is spelled out in mails, under its name. -/
theorem get?_mailValues_of_properties {f : Finding} {k : String} {j : Json}
    (h : f.properties.get? k = some j) : f.mailValues.get? k = some (.text j.spelled) := by
  rw [get?_mailValues]
  rcases mem_facts.mp (get?_properties.mp h) with h | h | h | h | h | h | ⟨i, hi, h⟩ | ⟨u, hu, h⟩
  all_goals
    cases h
    simp_all [mailFacts]

end Finding

end Sentinel
