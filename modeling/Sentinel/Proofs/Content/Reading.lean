import Sentinel.Proofs.Content.Listing
import Sentinel.Proofs.Outcome
/-!
# Reading what is described

A session describes a property and hands out its values. What the description says of the values is
what there is to read: a value for each length, with as many bytes, and no others. The one exception is a
property that was stored as one with an only value but without the value: it is described as empty, and
there is no value to read.

1. `value?_of_ge`, `value?_of_misfit`: accesses that give no value.
2. `reads_of_single`, `reads_of_multiple`: both shapes are read as they are described.
-/

namespace Sentinel

namespace Session

variable {session : Session} {p : String} {s : StoredProperty}

theorem value?_of_ge (hs : session.repository.stored? p = .ok s) (hm : s.multiple = true) {i : Nat}
    (hi : s.values.length ≤ i) :
    session.value? p (some i) = .error (.indexOutOfRange p i s.values.length) := by
  rw [value?, hs]
  simp only [Bind.bind, Except.bind, hm, List.getElem?_eq_none hi]

theorem value?_of_misfit (hs : session.repository.stored? p = .ok s) {index : Option Nat}
    (h : index.isSome ≠ s.multiple) : ∃ e, session.value? p index = .error e := by
  cases hv : session.value? p index with
  | error e => exact ⟨e, rfl⟩
  | ok v => exact absurd ((value?_eq_ok_iff hs index).mp hv).1 h

/-- What a description says of the values of a property can be read, and nothing else. -/
def Reads (session : Session) (c : ContentProperty) : Prop :=
  match c.lengths with
  | .single n =>
    (∃ v, session.value? c.path none = .ok v ∧ v.bytes.length = n) ∧
      ∀ i, ∃ e, session.value? c.path (some i) = .error e
  | .multiple ns =>
    (∀ (i n : Nat), ns[i]? = some n → ∃ v, session.value? c.path (some i) = .ok v ∧ v.bytes.length = n) ∧
      (∀ i, ns.length ≤ i → session.value? c.path (some i) = .error (.indexOutOfRange c.path i ns.length)) ∧
      ∃ e, session.value? c.path none = .error e

theorem reads_of_single (hs : session.repository.stored? p = .ok s) (hm : s.multiple = false)
    {v : ContentValue} {vs : List ContentValue} (hv : s.values = v :: vs) :
    session.Reads (s.describe p) := by
  have hlengths : (s.describe p).lengths = .single v.length := by
    rw [StoredProperty.describe, hm, hv]
    rfl
  have hvalue : s.at? none = some v := by rw [StoredProperty.at?, hv, List.head?_cons]
  rw [Reads, hlengths]
  exact ⟨⟨v, (value?_eq_ok_iff hs none).mpr ⟨hm.symm, hvalue⟩, rfl⟩,
    fun i => value?_of_misfit hs (by simp [hm])⟩

theorem reads_of_multiple (hs : session.repository.stored? p = .ok s) (hm : s.multiple = true) :
    session.Reads (s.describe p) := by
  have hlengths : (s.describe p).lengths = .multiple (s.values.map (·.length)) := by
    rw [StoredProperty.describe, hm]
    rfl
  rw [Reads, hlengths]
  refine ⟨fun i n hn => ?_, fun i hi => ?_, value?_of_misfit hs (by simp [hm])⟩
  · rw [List.getElem?_map] at hn
    obtain ⟨v, hv, rfl⟩ := Option.map_eq_some_iff.mp hn
    exact ⟨v, (value?_eq_ok_iff hs (some i)).mpr ⟨hm.symm, hv⟩, rfl⟩
  · rw [List.length_map] at hi ⊢
    exact value?_of_ge hs hm hi

theorem reads_describe (hs : session.repository.stored? p = .ok s) (hh : ¬s.IsHollow) :
    session.Reads (s.describe p) := by
  cases hm : s.multiple with
  | false =>
    obtain ⟨v, vs, hv⟩ := List.exists_cons_of_ne_nil fun h => hh ⟨hm, h⟩
    exact reads_of_single hs hm hv
  | true => exact reads_of_multiple hs hm

end Session

end Sentinel
