import Sentinel.Proofs.Pattern.Brackets
/-!
# How far a reader goes

No reader leaves more behind than it found, and those that read a character or more leave less. Both are
classes, so that what holds of the steps of a reader is found for the reader by instances.

1. `Shortens`, `Consumes`: the two kinds of readers, and what is put together from them.
2. The readers of escapes, brackets and bounds.
3. `shortens_parts`: the readers of alternatives, items and groups.
-/

namespace Sentinel.Pattern

variable {α β : Type}

/-- A reader that leaves no more behind than it found. -/
class Shortens (r : Reads α) : Prop where
  length_le : ∀ {k a k'}, r.run k = some (a, k') → k'.rest.length ≤ k.rest.length

/-- A reader that leaves less behind than it found, unless there was nothing. -/
class Consumes (r : Reads α) : Prop where
  length_le : ∀ {k a k'}, r.run k = some (a, k') → k'.rest.length ≤ k.rest.length - 1

section Steps

variable {r r₁ r₂ : Reads α} {f : α → Reads β}

instance shortens_of_consumes [Consumes r] : Shortens r where
  length_le h := Nat.le_trans (Consumes.length_le h) (Nat.sub_le _ _)

instance shortens_pure (a : α) : Shortens (pure a : Reads α) where
  length_le h := by
    obtain ⟨-, rfl⟩ := Prod.mk.inj (Option.some.inj h)
    exact Nat.le_refl _

theorem Shortens.bind (hr : Shortens r) (hf : ∀ a, Shortens (f a)) : Shortens (r >>= f) where
  length_le h := by
    obtain ⟨a, k', hfirst, hnext⟩ := run_bind_eq_some.mp h
    exact Nat.le_trans ((hf a).length_le hnext) (hr.length_le hfirst)

theorem Consumes.bind (hr : Consumes r) (hf : ∀ a, Shortens (f a)) : Consumes (r >>= f) where
  length_le h := by
    obtain ⟨a, k', hfirst, hnext⟩ := run_bind_eq_some.mp h
    exact Nat.le_trans ((hf a).length_le hnext) (hr.length_le hfirst)

theorem Shortens.bind_consumes (hr : Shortens r) (hf : ∀ a, Consumes (f a)) : Consumes (r >>= f) where
  length_le h := by
    obtain ⟨a, k', hfirst, hnext⟩ := run_bind_eq_some.mp h
    exact Nat.le_trans ((hf a).length_le hnext) (Nat.sub_le_sub_right (hr.length_le hfirst) 1)

instance shortens_bind [hr : Shortens r] [hf : ∀ a, Shortens (f a)] : Shortens (r >>= f) := hr.bind hf

instance consumes_bind_left [hr : Consumes r] [hf : ∀ a, Shortens (f a)] : Consumes (r >>= f) := hr.bind hf

instance consumes_bind_right [hr : Shortens r] [hf : ∀ a, Consumes (f a)] : Consumes (r >>= f) :=
  hr.bind_consumes hf

/-- What a reader does with its cursor is found at each cursor. -/
theorem shortens_get_bind {f : Cursor → Reads β}
    (h : ∀ k b k', (f k).run k = some (b, k') → k'.rest.length ≤ k.rest.length) : Shortens (get >>= f) where
  length_le hrun := h _ _ _ hrun

theorem consumes_get_bind {f : Cursor → Reads β}
    (h : ∀ k b k', (f k).run k = some (b, k') → k'.rest.length ≤ k.rest.length - 1) :
    Consumes (get >>= f) where
  length_le hrun := h _ _ _ hrun

/-- From a cursor that is set, a reader goes on as from any. -/
theorem length_set_bind_le [Shortens r] {start k k' : Cursor} {a : α}
    (h : (set start >>= fun _ => r).run k = some (a, k')) : k'.rest.length ≤ start.rest.length :=
  Shortens.length_le (r := r) h

instance shortens_map (g : α → β) [Shortens r] : Shortens (g <$> r) where
  length_le h := by
    rw [StateT.run_map] at h
    obtain ⟨⟨a, k'⟩, hr, heq⟩ := Option.map_eq_some_iff.mp h
    obtain ⟨-, rfl⟩ := Prod.mk.inj heq
    exact Shortens.length_le (r := r) hr

instance shortens_ite {p : Prop} [Decidable p] [Shortens r₁] [Shortens r₂] :
    Shortens (if p then r₁ else r₂) := by
  split <;> infer_instance

instance consumes_ite {p : Prop} [Decidable p] [Consumes r₁] [Consumes r₂] :
    Consumes (if p then r₁ else r₂) := by
  split <;> infer_instance

instance consumes_failure : Consumes (failure : Reads α) where
  length_le h := by cases h

instance shortens_get : Shortens (get : Reads Cursor) where
  length_le h := by
    obtain ⟨-, rfl⟩ := Prod.mk.inj (Option.some.inj h)
    exact Nat.le_refl _

theorem shortens_modify {g : Cursor → Cursor} (h : ∀ k, (g k).rest.length ≤ k.rest.length) :
    Shortens (modify g : Reads Unit) where
  length_le hrun := by
    obtain ⟨-, rfl⟩ := Prod.mk.inj (Option.some.inj hrun)
    exact h _

instance shortens_lift (o : Option α) : Shortens (liftM o : Reads α) where
  length_le h := by
    rw [Reader.lift_run] at h
    obtain ⟨a, -, heq⟩ := Option.map_eq_some_iff.mp h
    obtain ⟨-, rfl⟩ := Prod.mk.inj heq
    exact Nat.le_refl _

end Steps

namespace Reader

instance shortens_require (b : Bool) : Shortens (require b) := by
  unfold require
  infer_instance

instance shortens_peek : Shortens peek := by
  unfold peek
  infer_instance

instance shortens_here : Shortens here where
  length_le h := by
    rw [here_run] at h
    obtain ⟨c, -, heq⟩ := Option.map_eq_some_iff.mp h
    obtain ⟨-, rfl⟩ := Prod.mk.inj heq
    exact Nat.le_refl _

instance consumes_bump : Consumes bump where
  length_le h := by
    obtain ⟨-, rfl⟩ := Prod.mk.inj (Option.some.inj h)
    exact Nat.le_of_eq List.length_drop

instance shortens_skip : Shortens skip := by
  refine shortens_modify fun _ => ?_
  split
  · exact length_skipped_le false _
  · exact Nat.le_refl _

instance consumes_advance : Consumes advance := by
  unfold advance
  infer_instance

instance shortens_dropBlanks :
    Shortens (modify fun k => { k with rest := k.rest.dropWhile Text.isBlank } : Reads Unit) :=
  shortens_modify fun _ => (List.dropWhile_suffix _).length_le

instance shortens_discard {r : Reads α} [Shortens r] : Shortens (discard r) := shortens_map _

instance consumes_readBraced (f : Nat) (acc : List Char) : Consumes (readBraced f acc) := by
  induction f generalizing acc with
  | zero => exact consumes_failure
  | succ f ih =>
    rw [readBraced]
    infer_instance

instance shortens_readDigits (f : Nat) (acc : List Char) : Shortens (readDigits f acc) := by
  induction f generalizing acc with
  | zero => exact (inferInstance : Shortens failure)
  | succ f ih =>
    rw [readDigits]
    refine Shortens.bind inferInstance fun c? => ?_
    cases c? <;> infer_instance

set_option synthInstance.maxSize 512 in
instance shortens_readCount : Shortens readCount := by
  unfold readCount
  dsimp only
  infer_instance

instance shortens_readHexDigits (n : Nat) (acc : List Char) : Shortens (readHexDigits n acc) := by
  induction n generalizing acc with
  | zero => exact shortens_pure _
  | succ n ih =>
    rw [readHexDigits]
    infer_instance

instance consumes_readHex : Consumes readHex := by
  unfold readHex
  infer_instance

instance consumes_readProperty : Consumes readProperty := by
  unfold readProperty
  infer_instance

/-- The reader goes back to where it stood before it reads the name. -/
instance shortens_readBoundaryName? : Shortens readBoundaryName? := by
  refine shortens_get_bind fun k a k' h => ?_
  obtain ⟨_, k₁, -, h⟩ := run_bind_eq_some.mp h
  obtain ⟨c, k₂, -, h⟩ := run_bind_eq_some.mp h
  dsimp only at h
  split at h
  · exact length_set_bind_le h
  · refine @length_set_bind_le _ _ ?_ _ _ _ _ h
    refine Shortens.bind inferInstance fun name => Shortens.bind inferInstance fun _ => ?_
    split <;> infer_instance

instance consumes_readEscape : Consumes readEscape := by
  unfold readEscape
  refine Consumes.bind inferInstance fun _ => Shortens.bind inferInstance fun c => ?_
  split
  · infer_instance
  · split
    · infer_instance
    · split
      · infer_instance
      · refine Shortens.bind inferInstance fun _ => ?_
        split <;> infer_instance

instance consumes_readPrimitive : Consumes readPrimitive := by
  unfold readPrimitive
  refine Shortens.bind_consumes inferInstance fun c => ?_
  split <;> infer_instance

instance consumes_readClassPrimitive : Consumes readClassPrimitive := by
  unfold readClassPrimitive
  refine Shortens.bind_consumes inferInstance fun c => ?_
  split <;> infer_instance

set_option synthInstance.maxSize 512 in
instance consumes_readRange : Consumes readRange := by
  unfold readRange
  dsimp only
  infer_instance

instance shortens_readHyphens (f : Nat) (acc : List ClassTerm) : Shortens (readHyphens f acc) := by
  induction f generalizing acc with
  | zero => exact shortens_pure _
  | succ f ih =>
    rw [readHyphens]
    infer_instance

theorem length_nameOf?_lt {negated : Bool} {cs rest : List Char} {t : ClassTerm}
    (h : nameOf? negated cs = some (t, rest)) : rest.length < cs.length := by
  unfold nameOf? at h
  split at h
  · next rest' hlead =>
    obtain ⟨set, -, heq⟩ := Option.map_eq_some_iff.mp h
    obtain ⟨-, rfl⟩ := Prod.mk.inj heq
    have hle := (List.dropWhile_suffix (· ≠ ':') (l := cs)).length_le
    rw [Text.dropLead?_eq_some_iff.mp hlead, List.length_append] at hle
    exact Nat.lt_of_lt_of_le (Nat.lt_add_of_pos_left (by decide)) hle
  · cases h

theorem length_namedClass?_lt {cs rest : List Char} {t : ClassTerm}
    (h : namedClass? cs = some (t, rest)) : rest.length < cs.length := by
  unfold namedClass? at h
  split at h
  · next ds =>
    have hname {negated : Bool} {es : List Char} (hes : es.length ≤ ds.length)
        (hname : nameOf? negated es = some (t, rest)) : rest.length < ('[' :: ':' :: ds).length := by
      have hlt := length_nameOf?_lt hname
      simp only [List.length_cons]
      omega
    split at h
    next hmark =>
    split at hmark
    · obtain ⟨rfl, rfl⟩ := Prod.mk.inj hmark
      exact hname (Nat.le_succ _) h
    · obtain ⟨rfl, rfl⟩ := Prod.mk.inj hmark
      exact hname (Nat.le_refl _) h
  · cases h

set_option synthInstance.maxSize 512 in
theorem consumes_readBracket_succ {f : Nat} (h : ∀ pending acc, Shortens (readMembers f pending acc)) :
    Consumes (readBracket (f + 1)) := by
  rw [readBracket]
  infer_instance

theorem consumes_readMembers_succ {f : Nat} (hbracket : Consumes (readBracket f))
    (h : ∀ pending acc, Shortens (readMembers f pending acc))
    (pending : Option (SetOperation × ClassTerm)) (acc : List ClassTerm) :
    Consumes (readMembers (f + 1) pending acc) := by
  rw [readMembers]
  refine Shortens.bind_consumes inferInstance fun _ => consumes_get_bind fun k t k' hrun => ?_
  have hgo {pending : Option (SetOperation × ClassTerm)} {acc : List ClassTerm} {rest : List Char}
      (hrest : rest.length < k.rest.length)
      (hrun : (do set { k with rest }; readMembers f pending acc).run k = some (t, k')) :
      k'.rest.length ≤ k.rest.length - 1 := by
    have hle := length_set_bind_le hrun
    dsimp only at hle
    omega
  have htwo {c d : Char} {rest : List Char} (hrest : k.rest = c :: d :: rest) :
      rest.length < k.rest.length := by
    rw [hrest, List.length_cons, List.length_cons]
    omega
  dsimp only at hrun
  split at hrun
  · cases hrun
  · exact Consumes.length_le hrun
  · next hrest => exact hgo (htwo hrest) hrun
  · next hrest => exact hgo (htwo hrest) hrun
  · next hrest => exact hgo (htwo hrest) hrun
  · split at hrun
    · next hnamed => exact hgo (length_namedClass?_lt hnamed) hrun
    · exact (Consumes.bind hbracket fun _ => inferInstance).length_le hrun
  · exact Consumes.length_le hrun

theorem consumes_brackets (f : Nat) :
    Consumes (readBracket f) ∧ ∀ pending acc, Consumes (readMembers f pending acc) := by
  induction f with
  | zero => exact ⟨consumes_failure, fun _ _ => consumes_failure⟩
  | succ f ih =>
    obtain ⟨hbracket, hmembers⟩ := ih
    exact ⟨consumes_readBracket_succ fun _ _ => inferInstance,
      consumes_readMembers_succ hbracket fun _ _ => inferInstance⟩

instance consumes_readBracket (f : Nat) : Consumes (readBracket f) := (consumes_brackets f).1

instance consumes_readMembers (f : Nat) (pending : Option (SetOperation × ClassTerm)) (acc : List ClassTerm) :
    Consumes (readMembers f pending acc) :=
  (consumes_brackets f).2 pending acc

instance shortens_skipLazy : Shortens skipLazy := by
  unfold skipLazy
  infer_instance

set_option synthInstance.maxSize 512 in
instance consumes_readBounds : Consumes readBounds := by
  unfold readBounds
  dsimp only
  refine Consumes.bind inferInstance fun _ => Shortens.bind inferInstance fun _ => ?_
  refine Shortens.bind inferInstance fun min => Shortens.bind inferInstance fun c => ?_
  infer_instance

instance shortens_take? (lead : List Char) : Shortens (take? lead) := by
  refine shortens_get_bind fun k b k' h => ?_
  split at h
  · next rest hrest =>
    obtain ⟨-, rfl⟩ := Prod.mk.inj (Option.some.inj h)
    rw [Text.dropLead?_eq_some_iff.mp hrest, List.length_append]
    exact Nat.le_add_left _ _
  · exact Shortens.length_le h

instance shortens_readName : Shortens readName := by
  refine shortens_get_bind fun k b k' h => ?_
  obtain ⟨_, k₁, -, h⟩ := run_bind_eq_some.mp h
  obtain ⟨_, k₂, -, h⟩ := run_bind_eq_some.mp h
  obtain ⟨-, rfl⟩ := Prod.mk.inj (Option.some.inj h)
  simp only [List.length_drop]
  omega

instance shortens_modify_extended (g : Cursor → Bool) :
    Shortens (modify fun k => { k with extended := g k } : Reads Unit) :=
  shortens_modify fun _ => Nat.le_refl _

theorem length_flagsOf?_le {change change' : FlagChange} {seen cs rest : List Char} {any : Bool}
    (h : flagsOf? change seen cs = some (change', any, rest)) : rest.length ≤ cs.length := by
  induction cs generalizing change seen with
  | nil => cases h
  | cons c cs ih =>
    rw [flagsOf?] at h
    split at h
    · split at h
      · cases h
      · cases h
        exact Nat.le_refl _
    · split at h
      · cases h
      · split at h
        · exact Nat.le_succ_of_le (ih h)
        · split at h
          · exact Nat.le_succ_of_le (ih h)
          · cases h

theorem consumes_readGroup_succ {f : Nat} (hbody : ∀ change, Shortens (readBody f change)) :
    Consumes (readGroup (f + 1)) := by
  rw [readGroup]
  refine Consumes.bind inferInstance fun _ => Shortens.bind inferInstance fun _ => ?_
  refine Shortens.bind inferInstance fun k => ?_
  dsimp only
  refine Shortens.bind inferInstance fun _ => Shortens.bind inferInstance fun _ => ?_
  refine Shortens.bind inferInstance fun _ => ?_
  split
  · infer_instance
  refine Shortens.bind inferInstance fun _ => ?_
  split
  · refine shortens_get_bind fun k t k' h => ?_
    obtain ⟨⟨change, any, rest⟩, k₁, hlift, h⟩ := run_bind_eq_some.mp h
    rw [lift_run] at hlift
    obtain ⟨found, hfound, heq⟩ := Option.map_eq_some_iff.mp hlift
    obtain ⟨rfl, rfl⟩ := Prod.mk.inj heq
    obtain ⟨_, k₂, hmodify, h⟩ := run_bind_eq_some.mp h
    obtain ⟨-, rfl⟩ := Prod.mk.inj (Option.some.inj hmodify)
    have hle : k'.rest.length ≤ (rest.drop 1).length :=
      Shortens.length_le (k := { k with rest := rest.drop 1 }) h
    have hrest := length_flagsOf?_le hfound
    rw [List.length_drop] at hle
    omega
  · infer_instance

theorem shortens_readBody_succ {f : Nat} (hchoices : Shortens (readChoices f)) (change : FlagChange) :
    Shortens (readBody (f + 1) change) := by
  rw [readBody]
  dsimp only
  infer_instance

theorem shortens_readChoices_succ {f : Nat} (hsequence : ∀ acc, Shortens (readSequence f acc))
    (hchoices : Shortens (readChoices f)) : Shortens (readChoices (f + 1)) := by
  rw [readChoices]
  infer_instance

theorem shortens_readSequence_succ {f : Nat} (hgroup : Consumes (readGroup f))
    (hsequence : ∀ acc, Shortens (readSequence f acc)) (acc : List Term) :
    Shortens (readSequence (f + 1) acc) := by
  rw [readSequence]
  refine Shortens.bind inferInstance fun _ => Shortens.bind inferInstance fun c? => ?_
  split <;> infer_instance

/-- The parts of the reader of a text. -/
theorem shortens_parts (f : Nat) : Shortens (readChoices f) ∧ (∀ acc, Shortens (readSequence f acc)) ∧
    Consumes (readGroup f) ∧ ∀ change, Shortens (readBody f change) := by
  induction f with
  | zero => exact ⟨shortens_of_consumes (r := failure), fun _ => shortens_of_consumes (r := failure),
      consumes_failure, fun _ => shortens_of_consumes (r := failure)⟩
  | succ f ih =>
    obtain ⟨hchoices, hsequence, hgroup, hbody⟩ := ih
    exact ⟨shortens_readChoices_succ hsequence hchoices, shortens_readSequence_succ hgroup hsequence,
      consumes_readGroup_succ hbody, shortens_readBody_succ hchoices⟩

instance shortens_readChoices (f : Nat) : Shortens (readChoices f) := (shortens_parts f).1

instance shortens_readSequence (f : Nat) (acc : List Term) : Shortens (readSequence f acc) :=
  (shortens_parts f).2.1 acc

instance consumes_readGroup (f : Nat) : Consumes (readGroup f) := (shortens_parts f).2.2.1

instance shortens_readBody (f : Nat) (change : FlagChange) : Shortens (readBody f change) :=
  (shortens_parts f).2.2.2 change

end Reader

end Sentinel.Pattern
