import Sentinel.Proofs.Record.Paths
import Sentinel.Proofs.Text.Utf8
/-!
# Records are created once

A store in memory only ever gets records: a path that has one keeps it, and a create that is refused
leaves the store as it was. What is created is told by the joined path alone, so it does not matter how
the path is divided into a parent and a name.

1. `checkPath_eq_ok_iff`: the paths that records may have.
2. `create_of_fresh`, `create_of_refused`, `create_cases`, `isOk_create_iff`: one create.
3. `keeps_run`, `perm_run`, `failing_run`: what a run keeps, what it adds, and whether it ends failing.
4. `run_creates_once`: runs of creates, with the store made to fail and to work again in between.
-/

namespace Sentinel

namespace KeyMap

variable {α : Type}

theorem perm_insertEntry {k : String} (v : α) {es : List (String × α)} (h : k ∉ es.map (·.1)) :
    (insertEntry k v es).Perm ((k, v) :: es) := by
  induction es with
  | nil => simp [insertEntry]
  | cons e es ih =>
    simp only [List.map_cons, List.mem_cons, not_or] at h
    simp only [insertEntry]
    split
    · exact List.Perm.refl _
    · rw [if_neg h.1]
      calc List.Perm (e :: insertEntry k v es) (e :: (k, v) :: es) := (ih h.2).cons e
        List.Perm _ ((k, v) :: e :: es) := List.Perm.swap (k, v) e es

end KeyMap

namespace Record

/-- A path that a record may have: segments that are not empty and not relative, at least one of them,
each behind a slash. -/
def IsPath (path : String) : Prop :=
  ∃ ss : List (List Char), ss ≠ [] ∧ (∀ s ∈ ss, IsStep s) ∧ path.toList = ss.flatMap ('/' :: ·)

/-- Either the characters of a path do not begin with a slash, or they are segments behind slashes. -/
theorem head?_ne_or_exists_segments (path : String) : path.toList.head? ≠ some '/' ∨
    ∃ ss : List (List Char), ss ≠ [] ∧ (∀ s ∈ ss, '/' ∉ s) ∧ path.toList = ss.flatMap ('/' :: ·) := by
  rcases hpath : path.toList with _ | ⟨c, cs⟩
  · simp
  · by_cases hc : c = '/'
    · subst hc
      refine .inr ⟨Text.pieces '/' cs, Text.pieces_ne_nil '/' cs, ?_, (Text.flatMap_pieces '/' cs).symm⟩
      intro s hs
      exact Text.not_mem_of_mem_pieces hs
    · simp [hc]

theorem checkPath_of_relative {path : String} (h : path.toList.head? ≠ some '/') :
    checkPath path = .error (.persist path "path is not absolute") := by
  rw [checkPath]
  rcases hpath : path.toList with _ | ⟨c, cs⟩
  · rfl
  · have hc : c ≠ '/' := by simpa [hpath] using h
    obtain ⟨p, ps, hpieces⟩ := List.exists_cons_of_ne_nil (Text.pieces_ne_nil '/' cs)
    simp [Text.pieces, hc, hpieces]

/-- The paths that are not refused are those that records may have; a refusal names the path. -/
theorem checkPath_eq_ok_iff (path : String) :
    (checkPath path = .ok () ↔ IsPath path) ∧
      (checkPath path = .ok () ∨ ∃ reason, checkPath path = .error (.persist path reason)) := by
  rcases head?_ne_or_exists_segments path with hhead | ⟨ss, hne, hss, hpath⟩
  · rw [checkPath_of_relative hhead]
    refine ⟨⟨fun h => (nomatch h), ?_⟩, .inr ⟨_, rfl⟩⟩
    rintro ⟨ss, hne, -, hpath⟩
    obtain ⟨s, ss, rfl⟩ := List.exists_cons_of_ne_nil hne
    exact absurd (by simp [hpath]) hhead
  · rw [checkPath_of_segments hne hss hpath]
    split
    · next hany =>
      refine ⟨⟨fun h => (nomatch h), ?_⟩, .inr ⟨_, rfl⟩⟩
      -- The segments of a text are known from it, so no other row of them has better ones.
      intro ⟨ts, htne, hts, htpath⟩
      obtain ⟨s, hs, hbad⟩ := List.any_eq_true.mp hany
      have hsame : ss = ts := by
        have hpieces := Text.pieces_flatMap hss
        rw [← hpath, htpath, Text.pieces_flatMap fun t ht => (hts t ht).isSegment.2] at hpieces
        simpa using hpieces.symm
      exact absurd hbad ((isStep_iff (hss s hs)).mp (hts s (hsame ▸ hs)))
    · next hany =>
      refine ⟨⟨fun _ => ⟨ss, hne, ?_, hpath⟩, fun _ => rfl⟩, .inl rfl⟩
      intro s hs
      rw [isStep_iff (hss s hs)]
      intro hbad
      exact hany (List.any_eq_true.mpr ⟨s, hs, hbad⟩)

end Record

namespace MemoryStore

variable {s : MemoryStore} {parent name : String}

theorem create_of_fresh (properties : Attributes) (hpath : Record.checkPath (Path.child parent name) = .ok ())
    (hworks : s.failing = false) (hfresh : s.get? (Path.child parent name) = none) :
    s.create parent name properties =
      .ok (Path.child parent name,
        { s with records := s.records.insert (Path.child parent name) properties }) := by
  have hcontains : s.records.contains (Path.child parent name) = false := by
    rw [KeyMap.contains, ← MemoryStore.get?, hfresh]
    rfl
  simp only [create, hpath, hworks, hcontains]
  rfl

theorem create_of_refused (properties : Attributes) {e : HandlerError}
    (hpath : Record.checkPath (Path.child parent name) = .error e) :
    s.create parent name properties = .error e := by
  rw [create, hpath]
  rfl

/-- What became of a create: it is refused, and the path is named, or there is a record at a path that had
none. -/
theorem create_outcome (s : MemoryStore) (parent name : String) (properties : Attributes) :
    ((∃ reason, s.create parent name properties = .error (.persist (Path.child parent name) reason)) ∧
      ¬(Record.IsPath (Path.child parent name) ∧ s.failing = false ∧
        s.get? (Path.child parent name) = none)) ∨
    ((Record.IsPath (Path.child parent name) ∧ s.failing = false ∧ s.get? (Path.child parent name) = none) ∧
      s.create parent name properties = .ok (Path.child parent name,
        { s with records := s.records.insert (Path.child parent name) properties })) := by
  obtain ⟨hiff, hcheck | ⟨reason, hcheck⟩⟩ := Record.checkPath_eq_ok_iff (Path.child parent name)
  · have hispath := hiff.mp hcheck
    by_cases hfailing : s.failing = false
    · cases hget : s.get? (Path.child parent name) with
      | none => exact .inr ⟨⟨hispath, hfailing, rfl⟩, create_of_fresh properties hcheck hfailing hget⟩
      | some old =>
        have hcontains : s.records.contains (Path.child parent name) = true := by
          rw [KeyMap.contains, ← MemoryStore.get?, hget]
          rfl
        refine .inl ⟨⟨"record exists", ?_⟩, by simp⟩
        simp only [create, hcheck, hfailing, hcontains]
        rfl
    · refine .inl ⟨⟨"store is read-only", ?_⟩, fun h => hfailing h.2.1⟩
      simp only [create, hcheck, hfailing]
      rfl
  · refine .inl ⟨⟨reason, create_of_refused properties hcheck⟩, ?_⟩
    intro h
    rw [hiff.mpr h.1] at hcheck
    cases hcheck

/-- What a store is like that took a record: a path that was free has it, all others have what they had. -/
theorem create_cases {properties : Attributes} {path : String} {store : MemoryStore}
    (h : s.create parent name properties = .ok (path, store)) :
    s.get? path = none ∧ ∀ q, store.get? q = if q = path then some properties else s.get? q := by
  rcases create_outcome s parent name properties with ⟨⟨reason, herror⟩, -⟩ | ⟨⟨-, -, hfresh⟩, hok⟩
  · rw [herror] at h
    cases h
  · rw [hok] at h
    obtain ⟨rfl, rfl⟩ := Prod.mk.inj (Except.ok.inj h)
    exact ⟨hfresh, fun q => KeyMap.get?_insert _ _ _ q⟩

theorem isOk_create_iff (s : MemoryStore) (parent name : String) (properties : Attributes) :
    (s.create parent name properties).isOk = true ↔
      Record.IsPath (Path.child parent name) ∧ s.failing = false ∧ s.get? (Path.child parent name) = none := by
  rcases create_outcome s parent name properties with ⟨⟨reason, herror⟩, hnot⟩ | ⟨hall, hok⟩
  · rw [herror]
    exact ⟨fun h => (nomatch h), fun h => absurd h hnot⟩
  · rw [hok]
    exact ⟨fun _ => hall, fun _ => rfl⟩

inductive Operation where
  | create (parent name : String) (properties : Attributes)
  | setFailing (failing : Bool)

/-- The record that an operation adds, with its path. -/
def added? (s : MemoryStore) : Operation → Option (String × Attributes)
  | .create parent name properties => (s.create parent name properties).toOption.map fun made => (made.1, properties)
  | .setFailing _ => none

def act (s : MemoryStore) : Operation → MemoryStore
  | .create parent name properties =>
    match s.create parent name properties with
    | .ok (_, store) => store
    | .error _ => s
  | .setFailing failing => { s with failing }

def run (s : MemoryStore) (ops : List Operation) : MemoryStore := ops.foldl act s

/-- The records that a run adds, in the order of the creates. -/
def added (s : MemoryStore) : List Operation → List (String × Attributes)
  | [] => []
  | op :: ops => (s.added? op).toList ++ (s.act op).added ops

@[simp] theorem run_nil (s : MemoryStore) : s.run [] = s := rfl

@[simp] theorem run_cons (s : MemoryStore) (op : Operation) (ops : List Operation) :
    s.run (op :: ops) = (s.act op).run ops := rfl

/-- An operation adds nothing to the records, or the record of a create at a path that was free. -/
theorem act_cases (s : MemoryStore) (op : Operation) :
    (s.added? op = none ∧ (s.act op).records = s.records) ∨
    ∃ path properties, s.added? op = some (path, properties) ∧ s.get? path = none ∧
      (s.act op).records = s.records.insert path properties := by
  cases op with
  | create parent name properties =>
    rcases create_outcome s parent name properties with ⟨⟨reason, herror⟩, -⟩ | ⟨⟨-, -, hfresh⟩, hok⟩
    · left
      simp [added?, act, herror, Except.toOption]
    · right
      exact ⟨Path.child parent name, properties, by simp [added?, hok, Except.toOption], hfresh,
        by simp [act, hok]⟩
  | setFailing failing => exact .inl ⟨rfl, rfl⟩

theorem keeps_act {path : String} {properties : Attributes} (op : Operation)
    (h : s.get? path = some properties) : (s.act op).get? path = some properties := by
  rcases act_cases s op with ⟨-, hrecords⟩ | ⟨q, new, -, hfresh, hrecords⟩
  · rw [get?, hrecords]
    exact h
  · -- The new record is at a path that had none.
    have hne : path ≠ q := by
      intro heq
      rw [heq, hfresh] at h
      cases h
    rw [get?, hrecords, KeyMap.get?_insert, if_neg hne]
    exact h

theorem keeps_run {path : String} {properties : Attributes} (ops : List Operation)
    (h : s.get? path = some properties) : (s.run ops).get? path = some properties := by
  induction ops generalizing s with
  | nil => exact h
  | cons op ops ih => exact ih (keeps_act op h)

theorem perm_act (s : MemoryStore) (op : Operation) :
    (s.act op).records.entries.Perm (s.records.entries ++ (s.added? op).toList) := by
  rcases act_cases s op with ⟨hadded, hrecords⟩ | ⟨path, properties, hadded, hfresh, hrecords⟩
  · simp [hadded, hrecords]
  · have hkeys : path ∉ s.records.keys := by
      rw [KeyMap.mem_keys]
      intro ⟨old, hold⟩
      rw [get?, hold] at hfresh
      cases hfresh
    rw [hadded, hrecords, Option.toList_some]
    calc List.Perm (s.records.insert path properties).entries ((path, properties) :: s.records.entries) :=
          KeyMap.perm_insertEntry properties hkeys
      List.Perm _ (s.records.entries ++ [(path, properties)]) := (List.perm_append_singleton _ _).symm

theorem perm_run (s : MemoryStore) (ops : List Operation) :
    (s.run ops).records.entries.Perm (s.records.entries ++ s.added ops) := by
  induction ops generalizing s with
  | nil => simp [added]
  | cons op ops ih =>
    rw [added, ← List.append_assoc]
    calc List.Perm ((s.act op).run ops).records.entries ((s.act op).records.entries ++ (s.act op).added ops) :=
          ih (s.act op)
      List.Perm _ (s.records.entries ++ (s.added? op).toList ++ (s.act op).added ops) :=
        (perm_act s op).append_right _

/-- Every record that a run adds is that of one of its creates. -/
theorem exists_create_of_mem_added {ops : List Operation} {path : String} {properties : Attributes}
    (h : (path, properties) ∈ s.added ops) :
    ∃ before parent name after, ops = before ++ .create parent name properties :: after ∧
      ((s.run before).create parent name properties).isOk = true ∧ Path.child parent name = path := by
  induction ops generalizing s with
  | nil => cases h
  | cons op ops ih =>
    rcases List.mem_append.mp h with h | h
    · -- The first operation adds it, so it is a create, and nothing is before it.
      rw [Option.mem_toList] at h
      cases op with
      | setFailing failing => cases h
      | create parent name new =>
        rcases create_outcome s parent name new with ⟨⟨reason, herror⟩, -⟩ | ⟨-, hok⟩
        · simp [added?, herror, Except.toOption] at h
        · simp only [added?, hok, Except.toOption, Option.map_some, Option.some.injEq,
            Prod.mk.injEq] at h
          obtain ⟨hpath, rfl⟩ := h
          exact ⟨[], parent, name, ops, rfl, by simp [hok, Except.isOk, Except.toBool], hpath⟩
    · obtain ⟨before, parent, name, after, rfl, hok, hpath⟩ := ih h
      exact ⟨op :: before, parent, name, after, rfl, hok, hpath⟩

/-- A create that succeeds answers with the joined path, where its record stays, whatever is done afterwards. -/
theorem create_ok_kept {properties : Attributes} {path : String} {store : MemoryStore}
    (h : s.create parent name properties = .ok (path, store)) :
    path = Path.child parent name ∧ s.act (.create parent name properties) = store ∧
      ∀ more, (store.run more).get? path = some properties := by
  have hact : s.act (.create parent name properties) = store := by simp [act, h]
  have hget : store.get? path = some properties := by simp [(create_cases h).2]
  rcases create_outcome s parent name properties with ⟨⟨reason, herror⟩, -⟩ | ⟨-, hok⟩
  · rw [herror] at h
    cases h
  · rw [hok] at h
    have hpath : Path.child parent name = path := (Prod.mk.inj (Except.ok.inj h)).1
    exact ⟨hpath.symm, hact, fun more => keeps_run more hget⟩

/-- A create that fails names the joined path, and the store is as it was. -/
theorem create_error_unchanged {properties : Attributes} {e : HandlerError}
    (h : s.create parent name properties = .error e) :
    (∃ reason, e = .persist (Path.child parent name) reason) ∧ s.act (.create parent name properties) = s := by
  have hact : s.act (.create parent name properties) = s := by simp [act, h]
  rcases create_outcome s parent name properties with ⟨⟨reason, herror⟩, -⟩ | ⟨-, hok⟩
  · rw [herror] at h
    exact ⟨⟨reason, (Except.error.inj h).symm⟩, hact⟩
  · rw [hok] at h
    cases h

/-- What an operation says about failing. -/
def Operation.setting? : Operation → Option Bool
  | .create _ _ _ => none
  | .setFailing failing => some failing

theorem failing_act (s : MemoryStore) (op : Operation) : (s.act op).failing = op.setting?.getD s.failing := by
  cases op with
  | setFailing failing => rfl
  | create parent name properties =>
    rcases create_outcome s parent name properties with ⟨⟨reason, herror⟩, -⟩ | ⟨-, hok⟩
    · simp [act, herror, Operation.setting?]
    · simp [act, hok, Operation.setting?]

theorem failing_run (s : MemoryStore) (ops : List Operation) :
    (s.run ops).failing = ((ops.filterMap Operation.setting?).getLast?).getD s.failing := by
  induction ops generalizing s with
  | nil => rfl
  | cons op ops ih =>
    rw [run_cons, ih, failing_act]
    cases hset : op.setting? with
    | none => simp [hset]
    | some failing => simp [hset, List.getLast?_cons]

/-- A create stands in the way of no other that joins to another path. -/
theorem isOk_create_act_of_ne {p x q y : String} (a b : Attributes) (hne : Path.child q y ≠ Path.child p x)
    (h : (s.create q y b).isOk = true) : ((s.act (.create p x a)).create q y b).isOk = true := by
  obtain ⟨hispath, hworks, hfresh⟩ := (isOk_create_iff s q y b).mp h
  have hstill : (s.act (.create p x a)).get? (Path.child q y) = none := by
    rcases create_outcome s p x a with ⟨⟨reason, herror⟩, -⟩ | ⟨-, hok⟩
    · simp [act, herror, hfresh]
    · rw [act, hok, get?, KeyMap.get?_insert, if_neg hne]
      exact hfresh
  have hworks' : (s.act (.create p x a)).failing = false := by
    rw [failing_act]
    exact hworks
  exact (isOk_create_iff _ q y b).mpr ⟨hispath, hworks', hstill⟩

/-- Runs of a store that begins without records, whatever is created and however often the store is made
to fail or to work. A create succeeds exactly if records may have the joined path, the store was not last
made to fail, and no record has the path. Then it answers with the path, and the record is found there with
its properties after everything that follows. If it does not succeed, its error names the path and the
store is as it was. There are as many records as creates that succeeded, each of them once, in the order of
the bytes of their paths. What keeps a create from a path is an earlier one that joined to it, and a create
stands in the way of another only if both join to one path. -/
theorem run_creates_once (ops : List Operation) :
    let s := empty.run ops
    (∀ parent name properties, (s.create parent name properties).isOk = true ↔
      Record.IsPath (Path.child parent name) ∧ s.failing = false ∧ Path.child parent name ∉ s.records.keys) ∧
    s.failing = ((ops.filterMap Operation.setting?).getLast?).getD false ∧
    (∀ parent name properties path store, s.create parent name properties = .ok (path, store) →
      path = Path.child parent name ∧ s.act (.create parent name properties) = store ∧
        ∀ more, (store.run more).get? path = some properties) ∧
    (∀ parent name properties e, s.create parent name properties = .error e →
      (∃ reason, e = .persist (Path.child parent name) reason) ∧
        s.act (.create parent name properties) = s) ∧
    s.records.entries.Perm (empty.added ops) ∧ s.records.size = (empty.added ops).length ∧
    (s.records.keys.map utf8).Pairwise (· < ·) ∧
    (∀ path ∈ s.records.keys, ∃ before parent name properties after,
      ops = before ++ .create parent name properties :: after ∧
        ((empty.run before).create parent name properties).isOk = true ∧ Path.child parent name = path) ∧
    ∀ p x a q y b, (s.create q y b).isOk = true →
      ((s.act (.create p x a)).create q y b).isOk = false → Path.child p x = Path.child q y := by
  intro s
  have hperm : s.records.entries.Perm (empty.added ops) := perm_run empty ops
  have hfree : ∀ path, s.get? path = none ↔ path ∉ s.records.keys := by
    intro path
    rw [← KeyMap.contains_iff, KeyMap.contains, get?]
    simp
  refine ⟨?_, failing_run empty ops, ?_, ?_, hperm, hperm.length_eq, ?_, ?_, ?_⟩
  · intro parent name properties
    rw [isOk_create_iff, hfree]
  · intro parent name properties path store h
    exact create_ok_kept h
  · intro parent name properties e h
    exact create_error_unchanged h
  · rw [List.pairwise_map]
    exact s.records.sorted_keys.imp utf8_lt
  · intro path hpath
    obtain ⟨⟨_, properties⟩, hentry, rfl⟩ := List.mem_map.mp hpath
    obtain ⟨before, parent, name, after, hops, hok, hjoin⟩ :=
      exists_create_of_mem_added (hperm.mem_iff.mp hentry)
    exact ⟨before, parent, name, properties, after, hops, hok, hjoin⟩
  · intro p x a q y b hfirst hthen
    by_contra hne
    rw [isOk_create_act_of_ne a b (Ne.symm hne) hfirst] at hthen
    cases hthen

/-- A path that is joined from a parent with a slash at its end and from one without; the record stays when
the store fails and works again, and when the path is joined once more. -/
theorem run_creates_once_drafts :
    let first : Operation := .create "/drafts" "a" ∅
    let s := empty.act first
    s.get? "/drafts/a" = some ∅ ∧ (s.create "/drafts/" "a" ∅).isOk = false ∧
      (s.run [.setFailing true, .create "/drafts/" "a" ∅, .setFailing false]).get? "/drafts/a" = some ∅ ∧
      Path.child "/drafts" "a" = Path.child "/drafts/" "a" := by
  intro first s
  obtain ⟨-, -, hkept, -, -, -, -, -, hjoined⟩ := run_creates_once []
  have hkept (more : List Operation) : (s.run more).get? "/drafts/a" = some ∅ :=
    (hkept "/drafts" "a" ∅ "/drafts/a" s rfl).2.2 more
  have hagain : (s.create "/drafts/" "a" ∅).isOk = false := rfl
  exact ⟨hkept [], hagain, hkept _, hjoined "/drafts" "a" ∅ "/drafts/" "a" ∅ rfl hagain⟩

end MemoryStore

end Sentinel
