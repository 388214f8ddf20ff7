/-!
# Maps sorted by key

A map from texts to values that lists its entries in the order of the keys' characters, each key
once. The order is part of the type, so two maps with the same look-ups are equal.

1. `get?_insert`, `get?_erase`: what a look-up sees after an insertion and after a removal.
2. `ext_get?`: a map is determined by its look-ups.
-/

namespace Sentinel

/-- A finite map whose entries stand in increasing order of their keys. -/
structure KeyMap (α : Type) where
  entries : List (String × α)
  sorted : entries.Pairwise (fun a b => a.1 < b.1)

namespace KeyMap

variable {α β : Type}

def empty : KeyMap α := ⟨[], List.Pairwise.nil⟩

instance : Inhabited (KeyMap α) := ⟨empty⟩

instance : EmptyCollection (KeyMap α) := ⟨empty⟩

def get? (m : KeyMap α) (k : String) : Option α :=
  (m.entries.find? (·.1 = k)).map (·.2)

def contains (m : KeyMap α) (k : String) : Bool := (m.get? k).isSome

def keys (m : KeyMap α) : List String := m.entries.map (·.1)

def size (m : KeyMap α) : Nat := m.entries.length

/-- The entries with `(k, v)` at its place, an older value under `k` replaced. -/
def insertEntry (k : String) (v : α) : List (String × α) → List (String × α)
  | [] => [(k, v)]
  | e :: es =>
    if k < e.1 then (k, v) :: e :: es
    else if k = e.1 then (k, v) :: es
    else e :: insertEntry k v es

theorem mem_insertEntry {k : String} {v : α} {es : List (String × α)} {e : String × α}
    (h : e ∈ insertEntry k v es) : e = (k, v) ∨ e ∈ es := by
  induction es with
  | nil => simpa [insertEntry] using h
  | cons d ds ih =>
    simp only [insertEntry] at h
    split at h
    · simpa using h
    · split at h
      · simp only [List.mem_cons] at h ⊢
        rcases h with h | h
        · exact .inl h
        · exact .inr (.inr h)
      · simp only [List.mem_cons] at h ⊢
        rcases h with h | h
        · exact .inr (.inl h)
        · rcases ih h with h | h
          · exact .inl h
          · exact .inr (.inr h)

theorem sorted_insertEntry (k : String) (v : α) {es : List (String × α)}
    (h : es.Pairwise (fun a b => a.1 < b.1)) :
    (insertEntry k v es).Pairwise (fun a b => a.1 < b.1) := by
  induction es with
  | nil => simp [insertEntry]
  | cons e es ih =>
    rw [List.pairwise_cons] at h
    simp only [insertEntry]
    split
    · rename_i hk
      refine List.pairwise_cons.mpr ⟨?_, List.pairwise_cons.mpr h⟩
      intro d hd
      rcases List.mem_cons.mp hd with rfl | hd
      · exact hk
      · exact String.lt_trans hk (h.1 d hd)
    · rename_i hk
      split
      · rename_i heq
        exact List.pairwise_cons.mpr ⟨fun d hd => heq ▸ h.1 d hd, h.2⟩
      · rename_i hne
        refine List.pairwise_cons.mpr ⟨?_, ih h.2⟩
        intro d hd
        rcases mem_insertEntry hd with rfl | hd
        · rcases Std.lt_trichotomy k e.1 with h' | h' | h'
          · exact absurd h' hk
          · exact absurd h' hne
          · exact h'
        · exact h.1 d hd

/-- Puts a value under a key, in place of an older one. -/
def insert (m : KeyMap α) (k : String) (v : α) : KeyMap α :=
  ⟨insertEntry k v m.entries, sorted_insertEntry k v m.sorted⟩

def erase (m : KeyMap α) (k : String) : KeyMap α :=
  ⟨m.entries.filter (·.1 ≠ k), m.sorted.filter _⟩

/-- The map of a list of entries; of several values under a key the last one counts. -/
def ofList (es : List (String × α)) : KeyMap α :=
  es.foldl (fun m e => m.insert e.1 e.2) empty

def map (f : String → α → β) (m : KeyMap α) : KeyMap β :=
  ⟨m.entries.map fun e => (e.1, f e.1 e.2), List.pairwise_map.mpr m.sorted⟩

theorem find?_insertEntry (k : String) (v : α) (q : String) {es : List (String × α)}
    (h : es.Pairwise (fun a b => a.1 < b.1)) :
    ((insertEntry k v es).find? (·.1 = q)).map (·.2) =
      if q = k then some v else (es.find? (·.1 = q)).map (·.2) := by
  induction es with
  | nil => by_cases hq : k = q <;> simp [insertEntry, hq, eq_comm]
  | cons e es ih =>
    rw [List.pairwise_cons] at h
    simp only [insertEntry]
    split
    · by_cases hq : k = q
      · simp [hq]
      · simp [List.find?_cons, hq, Ne.symm hq]
    · split
      · rename_i heq
        by_cases hq : k = q
        · simp [hq]
        · have : e.1 ≠ q := heq ▸ hq
          simp [hq, Ne.symm hq, this]
      · rename_i hk hne
        by_cases he : e.1 = q
        · have : q ≠ k := fun h' => hne (h'.symm.trans he.symm)
          simp [he, this]
        · simp only [List.find?_cons, he, decide_false]
          exact ih h.2

@[simp] theorem get?_empty (k : String) : (empty : KeyMap α).get? k = none := rfl

theorem get?_insert (m : KeyMap α) (k : String) (v : α) (q : String) :
    (m.insert k v).get? q = if q = k then some v else m.get? q :=
  find?_insertEntry k v q m.sorted

theorem get?_erase (m : KeyMap α) (k q : String) :
    (m.erase k).get? q = if q = k then none else m.get? q := by
  simp only [get?, erase, List.find?_filter]
  by_cases hq : q = k
  · subst hq
    simp
  · simp only [hq, if_false]
    congr 2
    funext e
    by_cases he : e.1 = q <;> simp [he, hq]

theorem get?_eq_some_iff (m : KeyMap α) {k : String} {v : α} :
    m.get? k = some v ↔ (k, v) ∈ m.entries := by
  obtain ⟨es, hs⟩ := m
  simp only [get?]
  induction es with
  | nil => simp
  | cons e es ih =>
    rw [List.pairwise_cons] at hs
    by_cases he : e.1 = k
    · simp only [List.find?_cons, he, decide_true, Option.map_some, Option.some.injEq, List.mem_cons]
      constructor
      · rintro rfl
        left
        rw [← he]
      · rintro (h | h)
        · rw [← h]
        · exact absurd (he ▸ hs.1 _ h) (String.lt_irrefl _)
    · simp only [List.find?_cons, he, decide_false, List.mem_cons]
      rw [ih hs.2]
      constructor
      · exact .inr
      · rintro (h | h)
        · exact absurd (congrArg Prod.fst h).symm he
        · exact h

theorem mem_keys {m : KeyMap α} {k : String} : k ∈ m.keys ↔ ∃ v, m.get? k = some v := by
  simp only [keys, List.mem_map, Prod.exists, exists_and_right, exists_eq_right, get?_eq_some_iff]

theorem mem_keys_insert {m : KeyMap α} {k q : String} {v : α} :
    q ∈ (m.insert k v).keys ↔ q = k ∨ q ∈ m.keys := by
  rw [mem_keys, mem_keys, get?_insert]
  by_cases hq : q = k
  · simp [hq]
  · simp [hq]

theorem sorted_keys (m : KeyMap α) : m.keys.Pairwise (· < ·) := List.pairwise_map.mpr m.sorted

theorem contains_iff {m : KeyMap α} {k : String} : m.contains k = true ↔ k ∈ m.keys := by
  rw [contains, Option.isSome_iff_exists, mem_keys]

theorem entries_eq_of_mem_iff {xs ys : List (String × α)}
    (hx : xs.Pairwise (fun a b => a.1 < b.1)) (hy : ys.Pairwise (fun a b => a.1 < b.1))
    (h : ∀ e, e ∈ xs ↔ e ∈ ys) : xs = ys := by
  induction xs generalizing ys with
  | nil =>
    cases ys with
    | nil => rfl
    | cons y ys => exact absurd ((h y).mpr (by simp)) (by simp)
  | cons x xs ih =>
    cases ys with
    | nil => exact absurd ((h x).mp (by simp)) (by simp)
    | cons y ys =>
      rw [List.pairwise_cons] at hx hy
      have hxy : x = y := by
        rcases List.mem_cons.mp ((h x).mp (by simp)) with hx' | hx'
        · exact hx'
        · rcases List.mem_cons.mp ((h y).mpr (by simp)) with hy' | hy'
          · exact hy'.symm
          · exact absurd (String.lt_trans (hx.1 _ hy') (hy.1 _ hx')) (String.lt_irrefl _)
      subst hxy
      congr 1
      refine ih hx.2 hy.2 fun e => ?_
      constructor
      · intro he
        rcases List.mem_cons.mp ((h e).mp (by simp [he])) with rfl | h'
        · exact absurd (hx.1 _ he) (String.lt_irrefl _)
        · exact h'
      · intro he
        rcases List.mem_cons.mp ((h e).mpr (by simp [he])) with rfl | h'
        · exact absurd (hy.1 _ he) (String.lt_irrefl _)
        · exact h'

theorem ext_get? {m n : KeyMap α} (h : ∀ k, m.get? k = n.get? k) : m = n := by
  have : m.entries = n.entries := entries_eq_of_mem_iff m.sorted n.sorted fun e => by
    rw [← get?_eq_some_iff (k := e.1) (v := e.2), ← get?_eq_some_iff (k := e.1) (v := e.2), h]
  obtain ⟨es, hs⟩ := m
  obtain ⟨fs, ht⟩ := n
  simpa using this

end KeyMap

end Sentinel
