import Mathlib.Data.List.Perm.Basic
import Mathlib.Data.List.ReduceOption
import Sentinel.ScanJob
/-!
# Balances

The books of workers who share their work: what each accepted notification asks for, which jobs were
submitted for which of them, and which are still to be submitted. The books balance if each share is
what was submitted for it and then what is left of it; then it does not matter who works on what, nor
in which order.

1. `Balance.accept`, `Balance.advance`, `Balance.drop`: what keeps the books balanced.
2. `Balance.perm`: the order of the open shares does not count.
3. `perm_reduceOption_set`: a worker who gets something else to do changes nothing for the others.
-/

namespace Sentinel

/-- The jobs that were submitted for a share. -/
def sentFor (i : Nat) (log : List (Nat × ScanJob)) : List ScanJob :=
  (log.filter (·.1 = i)).map (·.2)

/-- The books on some shares: the jobs that they ask for, the jobs that were submitted with the
number of the share that each was for, and the open shares with what is left of them. -/
structure Balance (shares : List (List ScanJob)) (log : List (Nat × ScanJob))
    (left : List (Nat × List ScanJob)) : Prop where
  distinct : (left.map (·.1)).Nodup
  known : ∀ e ∈ left, e.1 < shares.length
  underway : ∀ e ∈ left, sentFor e.1 log ++ e.2 = shares.getD e.1 []
  settled : ∀ i, i ∉ left.map (·.1) → sentFor i log = shares.getD i []
  total : List.Perm (log.map (·.2) ++ left.flatMap (·.2)) shares.flatten

namespace Balance

variable {shares : List (List ScanJob)} {log : List (Nat × ScanJob)}
variable {left left' : List (Nat × List ScanJob)} {i : Nat} {js ks : List ScanJob}

theorem start : Balance [] [] [] :=
  ⟨List.nodup_nil, by simp, by simp, fun _ _ => rfl, List.Perm.refl _⟩

theorem perm (h : Balance shares log left) (hp : List.Perm left left') : Balance shares log left' where
  distinct := (hp.map (·.1)).nodup_iff.mp h.distinct
  known e he := h.known e (hp.mem_iff.mpr he)
  underway e he := h.underway e (hp.mem_iff.mpr he)
  settled i hi := h.settled i fun hmem => hi ((hp.map (·.1)).mem_iff.mp hmem)
  total := ((hp.flatMap_right (·.2)).symm.append_left _).trans h.total

theorem accept (h : Balance shares log left) (js : List ScanJob) :
    Balance (shares ++ [js]) log ((shares.length, js) :: left) := by
  have hfresh : shares.length ∉ left.map (·.1) := by
    intro hmem
    obtain ⟨e, he, heq⟩ := List.mem_map.mp hmem
    exact absurd (h.known e he) (by omega)
  have hold {i : Nat} (hi : i < shares.length) : (shares ++ [js]).getD i [] = shares.getD i [] := by
    rw [List.getD_eq_getElem?_getD, List.getD_eq_getElem?_getD, List.getElem?_append_left hi]
  refine ⟨List.nodup_cons.mpr ⟨hfresh, h.distinct⟩, ?_, ?_, ?_, ?_⟩
  · intro e he
    rw [List.length_append, List.length_singleton]
    rcases List.mem_cons.mp he with rfl | he
    · exact Nat.lt_succ_self _
    · exact Nat.lt_succ_of_lt (h.known e he)
  · intro e he
    rcases List.mem_cons.mp he with rfl | he
    · have hnone : sentFor shares.length log = [] := by
        rw [h.settled _ hfresh]
        simp
      simp [hnone]
    · rw [hold (h.known e he)]
      exact h.underway e he
  · intro i hi
    rw [List.map_cons, List.mem_cons, not_or] at hi
    rw [h.settled i hi.2]
    rcases Nat.lt_or_ge i shares.length with hlt | hge
    · exact (hold hlt).symm
    · have hne : i ≠ shares.length := hi.1
      have hgt : (shares ++ [js]).length ≤ i := by
        rw [List.length_append, List.length_singleton]
        omega
      simp only [List.getD_eq_getElem?_getD, List.getElem?_eq_none hge, List.getElem?_eq_none hgt]
  · rw [List.flatMap_cons, List.flatten_append, List.flatten_singleton]
    have hlast : List.Perm (log.map (·.2) ++ (js ++ left.flatMap (·.2)))
        (log.map (·.2) ++ left.flatMap (·.2) ++ js) := by
      rw [List.append_assoc]
      exact List.perm_append_comm.append_left _
    exact hlast.trans (h.total.append_right js)

theorem sentFor_append (i : Nat) (log log' : List (Nat × ScanJob)) :
    sentFor i (log ++ log') = sentFor i log ++ sentFor i log' := by
  rw [sentFor, List.filter_append, List.map_append]
  rfl

theorem sentFor_tagged (i : Nat) (js : List ScanJob) : sentFor i (js.map fun j => (i, j)) = js := by
  rw [sentFor, List.filter_eq_self.mpr (by simp), List.map_map]
  exact List.map_id _

theorem sentFor_tagged_of_ne {i k : Nat} (h : k ≠ i) (js : List ScanJob) :
    sentFor i (js.map fun j => (k, j)) = [] := by
  rw [sentFor, List.filter_eq_nil_iff.mpr (by simp [h]), List.map_nil]

/-- Jobs that are submitted for an open share are no longer left of it. -/
theorem advance (h : Balance shares log ((i, js ++ ks) :: left)) :
    Balance shares (log ++ js.map fun j => (i, j)) ((i, ks) :: left) := by
  have hi : i ∉ left.map (·.1) := (List.nodup_cons.mp h.distinct).1
  refine ⟨h.distinct, ?_, ?_, ?_, ?_⟩
  · intro e he
    rcases List.mem_cons.mp he with rfl | he
    · exact h.known (i, js ++ ks) List.mem_cons_self
    · exact h.known e (List.mem_cons_of_mem _ he)
  · intro e he
    rw [sentFor_append]
    rcases List.mem_cons.mp he with rfl | he
    · rw [sentFor_tagged, List.append_assoc]
      exact h.underway _ List.mem_cons_self
    · have hne : i ≠ e.1 := fun heq => hi (heq ▸ List.mem_map_of_mem he)
      rw [sentFor_tagged_of_ne hne, List.append_nil]
      exact h.underway e (List.mem_cons_of_mem _ he)
  · intro k hk
    have hne : i ≠ k := fun heq => hk (heq ▸ List.mem_cons_self)
    rw [sentFor_append, sentFor_tagged_of_ne hne, List.append_nil]
    exact h.settled k hk
  · have htotal := h.total
    rw [List.flatMap_cons, List.append_assoc] at htotal
    rw [List.flatMap_cons, List.map_append, List.map_map, List.append_assoc]
    have hjs : js.map ((·.2) ∘ fun j => (i, j)) = js := List.map_id _
    rw [hjs]
    exact htotal

theorem drop (h : Balance shares log ((i, []) :: left)) : Balance shares log left := by
  refine ⟨(List.nodup_cons.mp h.distinct).2, fun e he => h.known e (List.mem_cons_of_mem _ he),
    fun e he => h.underway e (List.mem_cons_of_mem _ he), ?_, h.total⟩
  intro k hk
  by_cases hki : k = i
  · subst hki
    have hunderway := h.underway _ List.mem_cons_self
    rwa [List.append_nil] at hunderway
  · refine h.settled k ?_
    rw [List.map_cons, List.mem_cons, not_or]
    exact ⟨hki, hk⟩

/-- Where no share is open, each one was submitted, and nothing else was. -/
theorem of_closed (h : Balance shares log []) :
    (∀ i, sentFor i log = shares.getD i []) ∧ List.Perm (log.map (·.2)) shares.flatten := by
  refine ⟨fun i => h.settled i List.not_mem_nil, ?_⟩
  have htotal := h.total
  rwa [List.flatMap_nil, List.append_nil] at htotal

end Balance

/-- What a worker gave up and what the workers do now is what they did and what it took up. -/
theorem perm_reduceOption_set {α : Type} {l : List (Option α)} {i : Nat} {old : Option α}
    (h : l[i]? = some old) (new : Option α) :
    List.Perm (old.toList ++ (l.set i new).reduceOption) (new.toList ++ l.reduceOption) := by
  have hcons (a : Option α) (l : List (Option α)) : (a :: l).reduceOption = a.toList ++ l.reduceOption := by
    cases a <;> rfl
  induction l generalizing i with
  | nil => cases h
  | cons a l ih =>
    cases i with
    | zero =>
      obtain rfl : a = old := Option.some.inj h
      rw [List.set_cons_zero, hcons, hcons, ← List.append_assoc, ← List.append_assoc]
      exact List.perm_append_comm.append_right _
    | succ i =>
      rw [List.set_cons_succ, hcons, hcons]
      have hrest := (ih h).append_left a.toList
      exact ((List.perm_append_comm_assoc ..).trans hrest).trans (List.perm_append_comm_assoc ..)

end Sentinel
