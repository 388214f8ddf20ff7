import Mathlib.Data.List.Basic
import Sentinel.Proofs.Dig.Report
/-!
# Digs whose jobs are accepted

Where the queue accepts jobs, a report on readable nodes has no error, and says of every value of a
wanted property, once and in order, that its job was submitted or that it was skipped.

1. `Offers.inTurn`: what parts in turn come to is what they come to, one behind the other.
2. `offers_ofVisit`: a visited node counts once, its jobs are those of the values within the limit,
   and its events are about the values of its wanted properties.
-/

namespace Sentinel

/-- The value that an event of a dig is about: the path of its property and its index. -/
def AuditEvent.offered? : AuditEvent → Option (String × Option Nat)
  | jobSubmitted _ path index _ => some (path, index)
  | valueSkipped path index _ _ => some (path, index)
  | _ => none

/-- The job with the user who asks for it. -/
def ScanJob.forUser (userId : Option String) (j : ScanJob) : ScanJob := { j with userId }

namespace DigScope

/-- The values that a dig weighs among those of some properties. -/
def offers (scope : DigScope) (ps : List ContentProperty) : List (String × Option Nat) :=
  (ps.filter scope.wants).flatMap fun p => p.places.map fun place => (p.path, place.1)

/-- The job for the value at a place of a property. -/
def jobAt (p : ContentProperty) (place : Option Nat × Nat) : ScanJob where
  path := p.path
  index := place.1
  userId := none
  propertyType := p.propertyType

/-- The jobs for the values of a property that are within a limit. -/
def jobsOf (limit : Int) (p : ContentProperty) : List ScanJob :=
  (p.places.filter fun place => withinLimit place.2 limit).map (jobAt p)

theorem map_forUser_jobsOf (limit : Int) (p : ContentProperty) :
    (jobsOf limit p).map (ScanJob.forUser none) = jobsOf limit p := by
  rw [jobsOf, List.map_map]
  rfl

/-- The jobs for the values of some properties. -/
def jobs (scope : DigScope) (ps : List ContentProperty) : List ScanJob :=
  (ps.filter scope.wants).flatMap (jobsOf scope.maxLength)

theorem map_forUser_jobs (scope : DigScope) (ps : List ContentProperty) :
    (scope.jobs ps).map (ScanJob.forUser none) = scope.jobs ps := by
  rw [jobs, List.map_flatMap]
  exact List.flatMap_congr fun p _ => map_forUser_jobsOf scope.maxLength p

end DigScope

namespace DigReport

/-- A report without an error, with the number of nodes, the jobs, and the values that its events
are about. -/
structure Offers (a : DigReport) (nodes : Nat) (jobs : List ScanJob)
    (values : List (String × Option Nat)) : Prop where
  error : a.error = none
  nodes : a.counts.nodesVisited = nodes
  jobs : a.jobs = jobs
  values : a.events.map AuditEvent.offered? = values.map some

namespace Offers

variable {a b : DigReport} {m n : Nat} {js ks : List ScanJob} {vs ws : List (String × Option Nat)}

theorem nothing : DigReport.nothing.Offers 0 [] [] := ⟨rfl, rfl, rfl, rfl⟩

theorem andThen (ha : a.Offers m js vs) (hb : b.Offers n ks ws) :
    (a.andThen b).Offers (m + n) (js ++ ks) (vs ++ ws) := by
  have h : a.andThen b = ⟨a.jobs ++ b.jobs, a.events ++ b.events, a.counts + b.counts, b.error⟩ := by
    rw [DigReport.andThen, ha.error]
  rw [h]
  refine ⟨hb.error, ?_, ?_, ?_⟩
  · rw [DigSummary.nodesVisited_add, ha.nodes, hb.nodes]
  · rw [ha.jobs, hb.jobs]
  · rw [List.map_append, ha.values, hb.values, List.map_append]

theorem inTurn {α : Type} {f : α → DigReport} {number : Nat} {jobs : α → List ScanJob}
    {values : α → List (String × Option Nat)} (xs : List α)
    (h : ∀ x ∈ xs, (f x).Offers number (jobs x) (values x)) :
    (DigReport.inTurn (xs.map f)).Offers (number * xs.length) (xs.flatMap jobs)
      (xs.flatMap values) := by
  induction xs with
  | nil => exact nothing
  | cons x xs ih =>
    obtain ⟨hx, hxs⟩ := List.forall_mem_cons.mp h
    rw [List.flatMap_cons, List.flatMap_cons, List.length_cons, Nat.mul_succ, Nat.add_comm]
    exact hx.andThen (ih hxs)

end Offers

theorem offers_ofValue (p : ContentProperty) (limit : Int) (userId : Option String)
    (place : Option Nat × Nat) :
    (ofValue true p limit userId place.1 place.2).Offers 0
      (if withinLimit place.2 limit then [(DigScope.jobAt p place).forUser userId] else [])
      [(p.path, place.1)] := by
  rw [ofValue]
  by_cases hl : limit ≠ -1 ∧ limit < place.2
  · have hw : ¬withinLimit place.2 limit = true := by
      rw [withinLimit_iff]
      omega
    rw [if_pos hl, if_neg hw]
    exact ⟨rfl, rfl, rfl, rfl⟩
  · have hw : withinLimit place.2 limit = true := by
      rw [withinLimit_iff]
      omega
    rw [if_neg hl, if_pos hw]
    exact ⟨rfl, rfl, rfl, rfl⟩

theorem offers_ofProperty (p : ContentProperty) (limit : Int) (userId : Option String) :
    (ofProperty true p limit userId).Offers 0 ((DigScope.jobsOf limit p).map (ScanJob.forUser userId))
      (p.places.map fun place => (p.path, place.1)) := by
  have hjobs : (DigScope.jobsOf limit p).map (ScanJob.forUser userId) = p.places.flatMap fun place =>
      if withinLimit place.2 limit then [(DigScope.jobAt p place).forUser userId] else [] := by
    rw [DigScope.jobsOf]
    induction p.places with
    | nil => rfl
    | cons place places ih =>
      rw [List.flatMap_cons, ← ih, List.filter_cons]
      split <;> rfl
  have h := Offers.inTurn p.places fun place _ => offers_ofValue p limit userId place
  rw [Nat.zero_mul, ← List.map_eq_flatMap, ← hjobs] at h
  exact h

theorem offers_ofProperties (scope : DigScope) (ps : List ContentProperty) :
    (ofProperties true scope ps).Offers 0 (scope.jobs ps) (scope.offers ps) := by
  have h := Offers.inTurn (ps.filter scope.wants) fun p _ => offers_ofProperty p scope.maxLength none
  simp only [Nat.zero_mul, DigScope.map_forUser_jobsOf] at h
  exact h

theorem offers_ofVisit (scope : DigScope) (ps : List ContentProperty) :
    (ofVisit true scope (.ok ps)).Offers 1 (scope.jobs ps) (scope.offers ps) := by
  have hcount : Offers ⟨[], [], { nodesVisited := 1 }, none⟩ 1 [] [] := ⟨rfl, rfl, rfl, rfl⟩
  exact hcount.andThen (offers_ofProperties scope ps)

end DigReport

end Sentinel
