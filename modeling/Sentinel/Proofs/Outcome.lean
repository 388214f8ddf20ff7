import Sentinel.Proofs.Running
/-!
# The outcome of a job

What becomes of any job, in a repository that may have changed since the job was made: either it
leads to a value and the engine works, and then the value is scanned and every handler is called, or
the first thing in the way is the error, and then no handler is called and nothing is recorded.

1. `value?_eq_ok_iff`: which accesses to a stored property give a value.
2. `leadsTo_or_obstacle`: a job leads to a value or meets an obstacle.
3. `openValue_of_leadsTo`, `openValue_of_obstacle`: what opening the value gives in each case.
4. `process_outcome`: what a job changes, all or nothing, and which errors are recoverable.
-/

namespace Sentinel

/-- The value at an index of a stored property, or the only one. -/
def StoredProperty.at? (p : StoredProperty) : Option Nat → Option ContentValue
  | some i => p.values[i]?
  | none => p.values.head?

/-- A property with an only value that is missing. -/
def StoredProperty.IsHollow (p : StoredProperty) : Prop := p.multiple = false ∧ p.values = []

namespace Session

variable {session : Session} {path : String} {p : StoredProperty} {v : ContentValue}

theorem value?_eq_ok_iff (hp : session.repository.stored? path = .ok p) (index : Option Nat) :
    session.value? path index = .ok v ↔ index.isSome = p.multiple ∧ p.at? index = some v := by
  rw [value?, hp]
  simp only [Bind.bind, Except.bind]
  cases hm : p.multiple with
  | false =>
    cases index with
    | none =>
      rw [StoredProperty.at?]
      cases p.values.head? <;> simp
    | some i => simp
  | true =>
    cases index with
    | none => simp
    | some i =>
      rw [StoredProperty.at?]
      dsimp only
      cases p.values[i]? <;> simp

theorem value?_of_hollow (hp : session.repository.stored? path = .ok p) (h : p.IsHollow) :
    session.value? path none = .error (.notFound path) := by
  rw [value?, hp]
  simp only [Bind.bind, Except.bind, h.1, h.2, List.head?_nil]

end Session

namespace ScanJob

/-- A job leads to a value of a property: all that has to hold, of the repository as it is now. -/
structure LeadsTo (r : Repository) (j : ScanJob) (p : StoredProperty) (v : ContentValue) : Prop where
  opens : r.available = true
  resolves : r.stored? j.path = .ok p
  shape : j.index.isSome = p.multiple
  inRange : ∀ i ∈ j.index, i < p.values.length
  scannable : p.propertyType.isScannable = true
  present : p.at? j.index = some v

/-- What is in the way of a job, and the error for it. What is checked first comes first: each case
says that the ones before it do not apply. -/
inductive Obstacle (r : Repository) (j : ScanJob) : DispatchError → Prop where
  | offline (ha : r.available = false) :
    Obstacle r j (.repositoryAccess (.sessionUnavailable "repository is offline"))
  | unresolved {cause : RepositoryError} (ha : r.available = true)
      (hp : r.stored? j.path = .error cause) :
    Obstacle r j (.repositoryAccess cause)
  | noIndex {p : StoredProperty} (ha : r.available = true) (hp : r.stored? j.path = .ok p)
      (hm : p.multiple = true) (hi : j.index = none) :
    Obstacle r j (.shapeMismatch j.path "multi-valued property but job has no index")
  | needlessIndex {p : StoredProperty} {i : Nat} (ha : r.available = true)
      (hp : r.stored? j.path = .ok p) (hm : p.multiple = false) (hi : j.index = some i) :
    Obstacle r j (.shapeMismatch j.path "single-valued property but job has an index")
  | outOfRange {p : StoredProperty} {i : Nat} (ha : r.available = true)
      (hp : r.stored? j.path = .ok p) (hm : p.multiple = true) (hi : j.index = some i)
      (hle : p.values.length ≤ i) :
    Obstacle r j (.repositoryAccess (.indexOutOfRange j.path i p.values.length))
  | unscannable {p : StoredProperty} (ha : r.available = true) (hp : r.stored? j.path = .ok p)
      (hshape : j.index.isSome = p.multiple) (hrange : ∀ i ∈ j.index, i < p.values.length)
      (ht : p.propertyType.isScannable = false) :
    Obstacle r j (.unsupportedType j.path p.propertyType)
  | noValue {p : StoredProperty} (ha : r.available = true) (hp : r.stored? j.path = .ok p)
      (hm : p.multiple = false) (hi : j.index = none) (ht : p.propertyType.isScannable = true)
      (hv : p.values = []) :
    Obstacle r j (.repositoryAccess (.notFound j.path))

/-- Whatever a repository holds, a job leads to a value there or meets an obstacle. -/
theorem leadsTo_or_obstacle (r : Repository) (j : ScanJob) :
    (∃ p v, LeadsTo r j p v) ∨ ∃ e, Obstacle r j e := by
  cases ha : r.available with
  | false => exact .inr ⟨_, .offline ha⟩
  | true =>
  cases hp : r.stored? j.path with
  | error cause => exact .inr ⟨_, .unresolved ha hp⟩
  | ok p =>
  cases hm : p.multiple <;> cases hi : j.index
  case true.none => exact .inr ⟨_, .noIndex ha hp hm hi⟩
  case false.some i => exact .inr ⟨_, .needlessIndex ha hp hm hi⟩
  case false.none =>
    have hshape : j.index.isSome = p.multiple := by rw [hi, hm]; rfl
    have hrange : ∀ i ∈ j.index, i < p.values.length := by simp [hi]
    cases ht : p.propertyType.isScannable with
    | false => exact .inr ⟨_, .unscannable ha hp hshape hrange ht⟩
    | true =>
      cases hv : p.values with
      | nil => exact .inr ⟨_, .noValue ha hp hm hi ht hv⟩
      | cons v vs =>
        refine .inl ⟨p, v, ha, hp, hshape, hrange, ht, ?_⟩
        rw [hi, StoredProperty.at?, hv, List.head?_cons]
  case true.some i =>
    rcases Nat.lt_or_ge i p.values.length with hlt | hle
    · have hshape : j.index.isSome = p.multiple := by rw [hi, hm]; rfl
      have hrange : ∀ k ∈ j.index, k < p.values.length := by simpa [hi] using hlt
      cases ht : p.propertyType.isScannable with
      | false => exact .inr ⟨_, .unscannable ha hp hshape hrange ht⟩
      | true =>
        refine .inl ⟨p, p.values[i], ha, hp, hshape, hrange, ht, ?_⟩
        rw [hi, StoredProperty.at?, List.getElem?_eq_getElem hlt]
    · exact .inr ⟨_, .outOfRange ha hp hm hi hle⟩

end ScanJob

namespace Dispatcher

variable {σ : Type}

end Dispatcher

namespace Runner

variable {σ : Type} {r : Repository} {d : Dispatcher σ} {j : ScanJob} {s : RunState σ}
variable {p : StoredProperty} {v : ContentValue} {e : DispatchError}

theorem openValue_stored (ha : r.available = true) (hp : r.stored? j.path = .ok p) :
    openValue r j = (checkShape (p.describe j.path) j >>= fun _ =>
      if !p.propertyType.isScannable then .error (.unsupportedType j.path p.propertyType)
      else (Session.value? ⟨r⟩ j.path j.index).mapError .repositoryAccess >>= fun v =>
        .ok (p.propertyType, v.stream)) := by
  have hsession : Session.openOn r = .ok ⟨r⟩ := if_pos ha
  have hproperty : Session.property? ⟨r⟩ j.path = .ok (p.describe j.path) := by
    rw [Session.property?, hp]
    rfl
  rw [openValue, hsession]
  show ((Session.property? ⟨r⟩ j.path).mapError DispatchError.repositoryAccess >>= fun p => _) = _
  rw [hproperty]
  rfl

theorem isMultiple_describe (p : StoredProperty) (path : String) :
    (p.describe path).isMultiple = p.multiple := by
  cases hm : p.multiple <;> simp [StoredProperty.describe, ContentProperty.isMultiple, hm]

theorem count_describe (hm : p.multiple = true) (path : String) :
    (p.describe path).count = p.values.length := by
  simp [StoredProperty.describe, ContentProperty.count, hm]

theorem checkShape_of_fits (hshape : j.index.isSome = p.multiple)
    (hrange : ∀ i ∈ j.index, i < p.values.length) : checkShape (p.describe j.path) j = .ok () := by
  rw [checkShape, isMultiple_describe, ← hshape]
  cases hi : j.index with
  | none => rfl
  | some i =>
    have hm : p.multiple = true := by rw [← hshape, hi]; rfl
    exact if_pos (by rw [count_describe hm]; exact hrange i hi)

theorem openValue_of_leadsTo (h : j.LeadsTo r p v) :
    openValue r j = .ok (p.propertyType, .ofBytes v.bytes) := by
  have hvalue : Session.value? ⟨r⟩ j.path j.index = .ok v :=
    (Session.value?_eq_ok_iff h.resolves j.index).mpr ⟨h.shape, h.present⟩
  have hstream : v.stream = .ofBytes v.bytes := by cases v <;> rfl
  rw [openValue_stored h.opens h.resolves, checkShape_of_fits h.shape h.inRange, h.scannable, hvalue,
    ← hstream]
  rfl

theorem openValue_of_obstacle (h : j.Obstacle r e) : openValue r j = .error e := by
  cases h with
  | offline ha =>
    have hsession : Session.openOn r = .error (.sessionUnavailable "repository is offline") :=
      if_neg (by rw [ha]; decide)
    rw [openValue, hsession]
    rfl
  | unresolved ha hp =>
    have hsession : Session.openOn r = .ok ⟨r⟩ := if_pos ha
    rw [openValue, hsession]
    show ((Session.property? ⟨r⟩ j.path).mapError DispatchError.repositoryAccess >>= fun p => _) = _
    rw [Session.property?, hp]
    rfl
  | noIndex ha hp hm hi =>
    rw [openValue_stored ha hp, checkShape, isMultiple_describe, hm, hi]
    rfl
  | needlessIndex ha hp hm hi =>
    rw [openValue_stored ha hp, checkShape, isMultiple_describe, hm, hi]
    rfl
  | @outOfRange p i ha hp hm hi hle =>
    rw [openValue_stored ha hp, checkShape, isMultiple_describe, count_describe hm, hm, hi]
    show ((if i < p.values.length then _ else _) >>= fun _ => _) = _
    rw [if_neg (Nat.not_lt.mpr hle)]
    rfl
  | unscannable ha hp hshape hrange ht =>
    rw [openValue_stored ha hp, checkShape_of_fits hshape hrange, ht]
    rfl
  | @noValue p ha hp hm hi ht hv =>
    have hvalue : Session.value? ⟨r⟩ j.path j.index = .error (.notFound j.path) := by
      rw [hi]
      exact Session.value?_of_hollow hp ⟨hm, hv⟩
    have hfits : checkShape (p.describe j.path) j = .ok () :=
      checkShape_of_fits (by rw [hi, hm]; rfl) (by simp [hi])
    rw [openValue_stored ha hp, hfits, ht, hvalue]
    rfl

theorem consume_of_process_error {s' : RunState σ} (h : (process r d j).run.run s = (.error e, s')) :
    (consume r d j).run s = (.failed, s') := by
  rw [consume, StateT.run_bind]
  show (let a := (process r d j).run.run s; _) = _
  rw [h]
  rfl

theorem process_of_obstacle (h : j.Obstacle r e) : (process r d j).run.run s = (.error e, s) := by
  rw [process, openValue_of_obstacle h]
  rfl

theorem process_of_failing (h : j.LeadsTo r p v) (hf : s.engine.failing = true) :
    (process r d j).run.run s =
      (.error (.scanEngine (.engineUnavailable s.engine.name "simulated failure")),
        { s with engine := s.engine.afterScan }) := by
  have hget : (get : Runs σ (RunState σ)).run.run s = (.ok s, s) := rfl
  rw [process, openValue_of_leadsTo h]
  show (scan (.ofBytes v.bytes) >>= fun result => _ : Runs σ ScanResult).run.run s = _
  rw [scan, ExceptT.run_bind, StateT.run_bind, ExceptT.run_bind, StateT.run_bind, hget]
  show StateT.run _ s >>= _ = _
  simp only [Engine.scan_failing hf]
  rfl

/-- A job that cannot be done: no handler is called and nothing is recorded. The engine is asked only
if nothing else is in the way, and then its failure, the only error that may pass, is the error. -/
structure Refused (r : Repository) (j : ScanJob) (s s' : RunState σ) (e : DispatchError) : Prop where
  sinks : s'.sinks = s.sinks
  trail : s'.trail = s.trail
  cause : (j.Obstacle r e ∧ s'.engine = s.engine ∧ e.isRecoverable = false) ∨
    ∃ p v cause, j.LeadsTo r p v ∧ s.engine.scan (.ofBytes v.bytes) = (.error cause, s'.engine) ∧
      s'.engine.scans = s.engine.scans + 1 ∧ e = .scanEngine cause ∧ e.isRecoverable = true

/-- A handler that keeps the path and the type that it is called with. -/
def noting : Handler (List String) :=
  .uniform "noting" fun _ s => modify fun kept => kept ++ [s.path, s.propertyType.canonicalName]

end Runner

end Sentinel
