import Sentinel.Proofs.Running
/-!
# Jobs as topics and attributes

A job is coded into a topic and a map of attributes, and decoded from any topic and any map. Decoding
takes what coding makes and nothing more, but for attributes that a job has no use for: those of other
names, an index that is null, and a user that is no text.

1. `ofTopic?_eq_ok_iff`: what a topic and attributes are decoded to.
2. `attributes_eq_restricted`: the decoded job is coded as the attributes that it has a use for.
3. `eq_of_coded`: no two jobs are coded alike.
4. `codes_exactly`: all of this at once.
-/

namespace Sentinel

namespace ScanJob

/-- What the attribute for an index stands for: null, as none, for no index. -/
inductive Indexes : Option Json → Option Nat → Prop
  | absent : Indexes none none
  | null : Indexes (some .null) none
  | word (i : Nat) : i < UInt64.size → Indexes (some (.ofNat i)) (some i)

theorem typeOfTopic?_eq_ok_iff {topic : String} {t : PropertyType} :
    typeOfTopic? topic = .ok t ↔ topic = t.scanTopic := by
  constructor
  · intro h
    rw [typeOfTopic?] at h
    split at h
    · cases h
    · next name hname =>
      split at h
      · next t' ht =>
        cases h
        apply String.toList_injective
        rw [Text.dropLead?_eq_some_iff.mp hname, PropertyType.scanTopic,
          PropertyType.canonicalName_of_ofName? ht, String.toList_append (t := String.ofList name),
          String.toList_ofList]
      · cases h
  · rintro rfl
    exact typeOfTopic?_scanTopic t

theorem word?_eq_some_iff {j : Json} {i : Nat} : j.word? = some i ↔ i < UInt64.size ∧ j = .ofNat i := by
  constructor
  · intro h
    unfold Json.word? at h
    split at h
    · next n =>
      split at h
      · next hn =>
        cases h
        refine ⟨by omega, ?_⟩
        rw [Json.ofNat, Int.toNat_of_nonneg hn.1]
      · cases h
    · cases h
  · rintro ⟨hi, rfl⟩
    exact word?_ofNat hi

theorem indexOf?_of_word {topic : String} {m : Attributes} {i : Nat} (hi : i < UInt64.size)
    (hget : m.get? "index" = some (.ofNat i)) : indexOf? topic m = .ok (some i) := by
  rw [indexOf?, hget]
  split
  · next h => cases h
  · next h => cases h
  · next number _ h =>
    cases h
    rw [word?_ofNat hi]

theorem indexOf?_eq_ok_iff {topic : String} {m : Attributes} {index : Option Nat} :
    indexOf? topic m = .ok index ↔ Indexes (m.get? "index") index := by
  constructor
  · intro h
    rw [indexOf?] at h
    split at h
    · next hget =>
      cases h
      rw [hget]
      exact .absent
    · next hget =>
      cases h
      rw [hget]
      exact .null
    · next number _ hget =>
      rw [hget]
      split at h
      · next i hi =>
        cases h
        obtain ⟨hlt, rfl⟩ := word?_eq_some_iff.mp hi
        exact .word i hlt
      · cases h
  · intro h
    generalize hget : m.get? "index" = held at h
    cases h with
    | absent => rw [indexOf?, hget]
    | null => rw [indexOf?, hget]
    | word i hi => exact indexOf?_of_word hi hget

theorem text?_eq_some_iff {j : Json} {s : String} : j.text? = some s ↔ j = .string s := by
  cases j <;> simp [Json.text?]

theorem ofTopic?_eq_ok_iff {topic : String} {m : Attributes} {j : ScanJob} :
    ofTopic? topic m = .ok j ↔
      topic = j.topic ∧ m.get? "path" = some (.string j.path) ∧ Indexes (m.get? "index") j.index ∧
        j.userId = (m.get? "userId").bind Json.text? := by
  have hpath (s : String) : (m.get? "path").bind Json.text? = some s ↔ m.get? "path" = some (.string s) := by
    rw [Option.bind_eq_some_iff]
    simp only [text?_eq_some_iff, exists_eq_right]
  obtain ⟨path, index, userId, t⟩ := j
  rw [ofTopic?, bind_eq_ok, ScanJob.topic]
  constructor
  · rintro ⟨t', ht, h⟩
    split at h
    · cases h
    · next s hs =>
      obtain ⟨index', hindex, h⟩ := bind_eq_ok.mp h
      cases h
      exact ⟨typeOfTopic?_eq_ok_iff.mp ht, (hpath _).mp hs, indexOf?_eq_ok_iff.mp hindex, rfl⟩
  · rintro ⟨htopic, hs, hindex, huser⟩
    refine ⟨t, typeOfTopic?_eq_ok_iff.mpr htopic, ?_⟩
    rw [(hpath path).mpr hs]
    refine bind_eq_ok.mpr ⟨index, indexOf?_eq_ok_iff.mpr hindex, ?_⟩
    show Except.ok (ScanJob.mk path index ((m.get? "userId").bind Json.text?) t) = _
    rw [← huser]

/-- An attribute that a job has a use for: the path, an index that is not null, and a user that is a
text. -/
def uses (e : String × Json) : Bool :=
  e.1 = "path" || e.1 = "index" && !e.2.isNull || e.1 = "userId" && e.2.text?.isSome

/-- The attributes that a job has a use for. -/
def restricted (m : Attributes) : Attributes := ⟨m.entries.filter uses, m.sorted.filter _⟩

theorem get?_restricted (m : Attributes) (k : String) :
    (restricted m).get? k = (m.get? k).filter fun v => uses (k, v) := by
  refine Option.ext fun v => ?_
  rw [KeyMap.get?_eq_some_iff, Option.filter_eq_some_iff, KeyMap.get?_eq_some_iff]
  exact List.mem_filter

theorem get?_attributes_of_ne (j : ScanJob) {k : String} (hp : k ≠ "path") (hi : k ≠ "index")
    (hu : k ≠ "userId") : j.attributes.get? k = none := by
  obtain ⟨path, index, userId, t⟩ := j
  cases index <;> cases userId <;> simp [attributes, KeyMap.get?_insert, hp, hi, hu]

theorem attributes_eq_restricted {topic : String} {m : Attributes} {j : ScanJob}
    (h : ofTopic? topic m = .ok j) : j.attributes = restricted m := by
  obtain ⟨-, hpath, hindex, huser⟩ := ofTopic?_eq_ok_iff.mp h
  refine KeyMap.ext_get? fun k => ?_
  rw [get?_restricted]
  by_cases hp : k = "path"
  · subst hp
    rw [get?_path_attributes, hpath]
    rfl
  · by_cases hi : k = "index"
    · subst hi
      rw [get?_index_attributes]
      generalize m.get? "index" = held, j.index = index at hindex ⊢
      cases hindex <;> rfl
    · by_cases hu : k = "userId"
      · subst hu
        rw [get?_userId_attributes, huser]
        cases m.get? "userId" with
        | none => rfl
        | some v => cases v <;> rfl
      · rw [get?_attributes_of_ne j hp hi hu]
        cases m.get? k with
        | none => rfl
        | some v => simp [uses, hp, hi, hu]

theorem scanTopic_inj {t u : PropertyType} (h : t.scanTopic = u.scanTopic) : t = u := by
  have hu := typeOfTopic?_scanTopic u
  rw [← h, typeOfTopic?_scanTopic] at hu
  exact Except.ok.inj hu

theorem eq_of_coded {j k : ScanJob} (htopic : j.topic = k.topic) (hattributes : j.attributes = k.attributes) :
    j = k := by
  have hpath : some (Json.string j.path) = some (.string k.path) := by
    rw [← get?_path_attributes, ← get?_path_attributes, hattributes]
  have hindex : j.index.map Json.ofNat = k.index.map .ofNat := by
    rw [← get?_index_attributes, ← get?_index_attributes, hattributes]
  have huser : j.userId.map Json.string = k.userId.map .string := by
    rw [← get?_userId_attributes, ← get?_userId_attributes, hattributes]
  have hofNat : Function.Injective Json.ofNat := fun m n h =>
    Int.ofNat.inj (JsonNumber.int.inj (Json.number.inj h))
  obtain ⟨path, index, userId, t⟩ := j
  obtain ⟨path', index', userId', t'⟩ := k
  obtain rfl : path = path' := by simpa using hpath
  obtain rfl : index = index' := Option.map_injective hofNat hindex
  obtain rfl : userId = userId' := Option.map_injective (fun _ _ h => Json.string.inj h) huser
  obtain rfl : t = t' := scanTopic_inj htopic
  rfl

/-- A job is decoded from its own topic and attributes; what is decoded is exactly the topics of types
with attributes that hold a path and no index of another kind; the job is coded as the same topic and the
attributes that it has a use for, which are decoded to it again; and no two jobs are coded alike. -/
theorem codes_exactly :
    (∀ j : ScanJob, (∀ i ∈ j.index, i < UInt64.size) → ofTopic? j.topic j.attributes = .ok j) ∧
    (∀ (topic : String) (m : Attributes),
      ((∃ j, ofTopic? topic m = .ok j) ↔
        (∃ t : PropertyType, topic = t.scanTopic) ∧ (∃ path, m.get? "path" = some (.string path)) ∧
          (m.get? "index" = none ∨ m.get? "index" = some .null ∨
            ∃ i < UInt64.size, m.get? "index" = some (.ofNat i))) ∧
      ∀ j, ofTopic? topic m = .ok j →
        j.topic = topic ∧ j.attributes = restricted m ∧ ofTopic? j.topic j.attributes = .ok j) ∧
    ∀ j k : ScanJob, j.topic = k.topic → j.attributes = k.attributes → j = k := by
  refine ⟨ofTopic?_topic, fun topic m => ⟨⟨?_, ?_⟩, fun j hj => ?_⟩, fun j k => eq_of_coded⟩
  · rintro ⟨j, hj⟩
    obtain ⟨htopic, hpath, hindex, -⟩ := ofTopic?_eq_ok_iff.mp hj
    refine ⟨⟨j.propertyType, htopic⟩, ⟨j.path, hpath⟩, ?_⟩
    generalize m.get? "index" = held, j.index = index at hindex ⊢
    cases hindex with
    | absent => exact .inl rfl
    | null => exact .inr (.inl rfl)
    | word i hi => exact .inr (.inr ⟨i, hi, rfl⟩)
  · rintro ⟨⟨t, htopic⟩, ⟨path, hpath⟩, hindex⟩
    obtain ⟨index, hindex⟩ : ∃ index, Indexes (m.get? "index") index := by
      rcases hindex with h | h | ⟨i, hi, h⟩
      · exact ⟨none, h ▸ .absent⟩
      · exact ⟨none, h ▸ .null⟩
      · exact ⟨some i, h ▸ .word i hi⟩
    exact ⟨⟨path, index, (m.get? "userId").bind Json.text?, t⟩,
      ofTopic?_eq_ok_iff.mpr ⟨htopic, hpath, hindex, rfl⟩⟩
  · obtain ⟨htopic, -, hindex, -⟩ := ofTopic?_eq_ok_iff.mp hj
    refine ⟨htopic.symm, attributes_eq_restricted hj, ofTopic?_topic j fun i hi => ?_⟩
    generalize m.get? "index" = held at hindex
    rw [Option.mem_def.mp hi] at hindex
    cases hindex with
    | word i hlt => exact hlt

/-- Attributes with a null index, a user that is a number, and a name that no job has. -/
def stray : Attributes :=
  KeyMap.ofList [("index", .null), ("path", .string "/a/é"), ("userId", .ofNat 7), ("zone", .bool true)]

/-- A job with the greatest index there is, and attributes of which only the path is kept. -/
theorem codes_exactly_stray :
    ofTopic? "contentscan/scan/property/URI" (attributes ⟨"/a/é", some 18446744073709551615, some "u", .uri⟩) =
        .ok ⟨"/a/é", some 18446744073709551615, some "u", .uri⟩ ∧
      ∃ j, ofTopic? "contentscan/scan/property/Binary" stray = .ok j ∧ j.topic = "contentscan/scan/property/Binary" ∧
        j.attributes = KeyMap.ofList [("path", .string "/a/é")] := by
  obtain ⟨hcoded, hdecoded, -⟩ := codes_exactly
  obtain ⟨haccepted, hjob⟩ := hdecoded "contentscan/scan/property/Binary" stray
  obtain ⟨j, hj⟩ := haccepted.mpr ⟨⟨.binary, rfl⟩, ⟨"/a/é", rfl⟩, .inr (.inl rfl)⟩
  obtain ⟨htopic, hattributes, -⟩ := hjob j hj
  refine ⟨hcoded ⟨"/a/é", some 18446744073709551615, some "u", .uri⟩ ?_, j, hj, htopic, hattributes.trans ?_⟩
  · intro i hi
    cases hi
    decide
  · rfl

end ScanJob

end Sentinel
