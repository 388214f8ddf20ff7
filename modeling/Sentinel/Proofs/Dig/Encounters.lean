import Sentinel.Proofs.Dig.Change
/-!
# What a dig comes across

The properties that a dig of a tree looks at, and the nodes that it cannot read, in the order in which it
comes to them. The dig weighs the values of these properties one after the other. It ends at the first
node that cannot be read, and where the queue refuses jobs also at the first value for which it has one.

1. `reached_append_of_passed`, `reached_append_of_stopped`: how far a dig gets in two parts.
2. `Accounts.andThen`: jobs, events and counts that account for the values that were weighed.
3. `runs_ofTree`: a report on a tree accounts for the values that are reached in the tree.
-/

namespace Sentinel

/-- A value that a dig weighs: its property, its index and its length. -/
structure Weighed where
  property : ContentProperty
  index : Option Nat
  length : Nat

namespace Weighed

def fits (limit : Int) (v : Weighed) : Bool := withinLimit v.length limit

def job (userId : Option String) (v : Weighed) : ScanJob where
  path := v.property.path
  index := v.index
  userId := userId
  propertyType := v.property.propertyType

end Weighed

def ContentProperty.weighed (p : ContentProperty) : List Weighed :=
  p.places.map fun place => ⟨p, place.1, place.2⟩

theorem ContentProperty.length_weighed (p : ContentProperty) : p.weighed.length = p.places.length :=
  List.length_map _

namespace AuditEvent

/-- What a submitted job is recorded with: topic, path, index and user. -/
def submitted? : AuditEvent → Option (String × String × Option Nat × Option String)
  | jobSubmitted topic path index userId => some (topic, path, index, userId)
  | _ => none

/-- What a skipped value is recorded with: path, index, length and limit. -/
def skipped? : AuditEvent → Option (String × Option Nat × Nat × Int)
  | valueSkipped path index length limit => some (path, index, length, limit)
  | _ => none

end AuditEvent

namespace Dig

/-- The properties of a node that a dig looks at, or the error that it meets there. -/
def sightsAt (scope : DigScope) :
    Except RepositoryError (List ContentProperty) → List (Except DispatchError ContentProperty)
  | .error e => [.error (.repositoryAccess e)]
  | .ok ps => (ps.filter scope.wants).map .ok

mutual

/-- The properties that a dig looks at from a node on, and the errors that it meets. -/
def sights (scope : DigScope) (start : Nat) : ContentNode → List (Except DispatchError ContentProperty)
  | .mk _ depth properties children =>
    sightsAt scope properties ++
      if scope.maxDepth = -1 ∨ (depth : Int) < start + scope.maxDepth then sightsBelow scope start children
      else []

/-- The same in a listing. -/
def sightsBelow (scope : DigScope) (start : Nat) :
    Except RepositoryError (List ContentNode) → List (Except DispatchError ContentProperty)
  | .error e => [.error (.repositoryAccess e)]
  | .ok nodes => sightsAll scope start nodes

/-- The same in one node after the other. -/
def sightsAll (scope : DigScope) (start : Nat) :
    List ContentNode → List (Except DispatchError ContentProperty)
  | [] => []
  | n :: ns => sights scope start n ++ sightsAll scope start ns

end

/-- The values of the properties, in place of each. -/
def spread (sights : List (Except DispatchError ContentProperty)) : List (Except DispatchError Weighed) :=
  sights.flatMap fun
    | .error e => [.error e]
    | .ok p => p.weighed.map .ok

/-- The values that a dig weighs before it ends: at an error, or at a value that fits where the queue
refuses the job for it. -/
def reached (accepting : Bool) (limit : Int) : List (Except DispatchError Weighed) → List Weighed
  | [] => []
  | .error _ :: _ => []
  | .ok v :: es => if !accepting && v.fits limit then [] else v :: reached accepting limit es

/-- A dig gets through all that it comes across. -/
def Passed (accepting : Bool) (limit : Int) (es : List (Except DispatchError Weighed)) : Prop :=
  es = (reached accepting limit es).map .ok

variable {accepting : Bool} {limit : Int} {userId : Option String}
variable {es fs : List (Except DispatchError Weighed)}

theorem passed_cons_ok {v : Weighed} : Passed accepting limit (.ok v :: es) ↔
    ¬(!accepting && v.fits limit) = true ∧ Passed accepting limit es := by
  rw [Passed, reached, Passed]
  split
  · next h => simp [h]
  · next h => simp [h]

theorem not_passed_cons_error {e : DispatchError} : ¬Passed accepting limit (.error e :: es) := by
  intro h
  cases h

theorem passed_append : Passed accepting limit (es ++ fs) ↔
    Passed accepting limit es ∧ Passed accepting limit fs := by
  induction es with
  | nil =>
    have hnil : Passed accepting limit [] := rfl
    simp [hnil]
  | cons e es ih =>
    rw [List.cons_append]
    cases e with
    | error e => simp [not_passed_cons_error]
    | ok v => rw [passed_cons_ok, passed_cons_ok, ih, and_assoc]

theorem reached_append_of_passed (h : Passed accepting limit es) :
    reached accepting limit (es ++ fs) = reached accepting limit es ++ reached accepting limit fs := by
  induction es with
  | nil => rfl
  | cons e es ih =>
    cases e with
    | error e => exact absurd h not_passed_cons_error
    | ok v =>
      obtain ⟨hv, hes⟩ := passed_cons_ok.mp h
      rw [List.cons_append, reached, if_neg hv, reached, if_neg hv, ih hes, List.cons_append]

theorem reached_append_of_stopped (h : ¬Passed accepting limit es) :
    reached accepting limit (es ++ fs) = reached accepting limit es := by
  induction es with
  | nil => exact absurd rfl h
  | cons e es ih =>
    rw [List.cons_append]
    cases e with
    | error e => rfl
    | ok v =>
      by_cases hv : (!accepting && v.fits limit) = true
      · rw [reached, if_pos hv, reached, if_pos hv]
      · rw [reached, if_neg hv, reached, if_neg hv, ih fun hes => h (passed_cons_ok.mpr ⟨hv, hes⟩)]

/-- No value that comes before the first error is left out where the queue accepts jobs. -/
theorem reached_of_accepting (limit : Int) (ws : List Weighed) :
    reached true limit (ws.map .ok) = ws := by
  induction ws with
  | nil => rfl
  | cons w ws ih => exact congrArg (w :: ·) ih

theorem length_reached_of_passed (h : Passed accepting limit es) :
    (reached accepting limit es).length = es.length := by
  have hlength : es.length = ((reached accepting limit es).map (@Except.ok DispatchError Weighed)).length :=
    congrArg List.length h
  rw [hlength, List.length_map]

theorem length_reached_spread {ss : List (Except DispatchError ContentProperty)}
    (h : Passed accepting limit (spread ss)) :
    (reached accepting limit (spread ss)).length =
      ((ss.filterMap Except.toOption).flatMap (·.places)).length := by
  induction ss with
  | nil => rfl
  | cons s ss ih =>
    rw [spread, List.flatMap_cons] at h ⊢
    obtain ⟨hs, hss⟩ := passed_append.mp h
    rw [reached_append_of_passed hs, List.length_append]
    cases s with
    | error e => exact absurd hs not_passed_cons_error
    | ok p =>
      rw [length_reached_of_passed hs, List.length_map, ContentProperty.length_weighed]
      show _ = (p.places ++ (ss.filterMap Except.toOption).flatMap (·.places)).length
      rw [List.length_append]
      exact congrArg (p.places.length + ·) (ih hss)

/-- Jobs and events that go with the values that were weighed: one job and one event for each that is
within the limit, and one event with the true length for each that is not. -/
structure Tallies (limit : Int) (userId : Option String) (weighed : List Weighed) (js : List ScanJob)
    (trail : List AuditEvent) : Prop where
  jobs : js = (weighed.filter (·.fits limit)).map (Weighed.job userId)
  submitted : trail.filterMap AuditEvent.submitted? = js.map fun j => (j.topic, j.path, j.index, j.userId)
  skipped : trail.filterMap AuditEvent.skipped? =
    (weighed.filter (!·.fits limit)).map fun v => (v.property.path, v.index, v.length, limit)
  known : ∀ e ∈ trail, e.submitted?.isSome ∨ e.skipped?.isSome

namespace Tallies

variable {ws vs : List Weighed} {js ks : List ScanJob} {as bs : List AuditEvent}

theorem nothing : Tallies limit userId [] [] [] := ⟨rfl, rfl, rfl, fun _ he => absurd he List.not_mem_nil⟩

theorem append (h : Tallies limit userId ws js as) (h' : Tallies limit userId vs ks bs) :
    Tallies limit userId (ws ++ vs) (js ++ ks) (as ++ bs) := by
  refine ⟨?_, ?_, ?_, ?_⟩
  · rw [h.jobs, h'.jobs, List.filter_append, List.map_append]
  · rw [List.filterMap_append, h.submitted, h'.submitted, List.map_append]
  · rw [List.filterMap_append, h.skipped, h'.skipped, List.filter_append, List.map_append]
  · intro e he
    rcases List.mem_append.mp he with he | he
    · exact h.known e he
    · exact h'.known e he

/-- Every value that was weighed was submitted or skipped. -/
theorem total (h : Tallies limit userId ws js as) :
    js.length + (as.filterMap AuditEvent.skipped?).length = ws.length := by
  rw [h.jobs, h.skipped, List.length_map, List.length_map]
  exact (List.length_eq_length_filter_add fun w : Weighed => w.fits limit).symm

end Tallies

end Dig

namespace DigReport

/-- A report that accounts for the values that were weighed: by its jobs, its events and its counts. -/
structure Accounts (limit : Int) (userId : Option String) (a : DigReport) (weighed : List Weighed) : Prop where
  tallies : Dig.Tallies limit userId weighed a.jobs a.events
  emitted : a.counts.jobsEmitted = a.jobs.length
  skipped : a.counts.valuesSkipped = (a.events.filterMap AuditEvent.skipped?).length

namespace Accounts

variable {limit : Int} {userId : Option String} {a b : DigReport} {ws vs : List Weighed}

/-- What counts nodes or properties accounts for no value. -/
theorem quiet {c : DigSummary} {e : Option DispatchError} (hc : c.jobsEmitted = 0 ∧ c.valuesSkipped = 0) :
    Accounts limit userId ⟨[], [], c, e⟩ [] := ⟨.nothing, hc.1, hc.2⟩

theorem andThen (ha : Accounts limit userId a ws) (hb : Accounts limit userId b vs) (hok : a.error = none) :
    Accounts limit userId (a.andThen b) (ws ++ vs) := by
  have h : a.andThen b = ⟨a.jobs ++ b.jobs, a.events ++ b.events, a.counts + b.counts, b.error⟩ := by
    rw [DigReport.andThen, hok]
  rw [h]
  refine ⟨ha.tallies.append hb.tallies, ?_, ?_⟩
  · show a.counts.jobsEmitted + b.counts.jobsEmitted = _
    rw [ha.emitted, hb.emitted, List.length_append]
  · show a.counts.valuesSkipped + b.counts.valuesSkipped = _
    rw [ha.skipped, hb.skipped, List.filterMap_append, List.length_append]

end Accounts

/-- A report on a dig that comes across values and errors: it accounts for those values that are reached,
and ends in an error unless all of them are. -/
structure Runs (accepting : Bool) (limit : Int) (userId : Option String) (a : DigReport)
    (es : List (Except DispatchError Weighed)) : Prop where
  accounts : a.Accounts limit userId (Dig.reached accepting limit es)
  error : a.error = none ↔ Dig.Passed accepting limit es
  resolved : a.counts.propertiesResolved = 0

namespace Runs

variable {accepting : Bool} {limit : Int} {userId : Option String} {a b : DigReport}
variable {es fs : List (Except DispatchError Weighed)}

theorem nothing : Runs accepting limit userId .nothing [] := ⟨.quiet ⟨rfl, rfl⟩, iff_of_true rfl rfl, rfl⟩

theorem visited : Runs accepting limit userId ⟨[], [], { nodesVisited := 1 }, none⟩ [] :=
  ⟨.quiet ⟨rfl, rfl⟩, iff_of_true rfl rfl, rfl⟩

theorem failed (e : DispatchError) : Runs accepting limit userId (.failed e) [.error e] := by
  refine ⟨.quiet ⟨rfl, rfl⟩, iff_of_false ?_ Dig.not_passed_cons_error, rfl⟩
  intro h
  cases h

theorem andThen (ha : Runs accepting limit userId a es) (hb : Runs accepting limit userId b fs) :
    Runs accepting limit userId (a.andThen b) (es ++ fs) := by
  -- Behind an error nothing is reported, and behind the value or error that ended a dig nothing is reached.
  by_cases hok : a.error = none
  · have hpassed := ha.error.mp hok
    have h : a.andThen b = ⟨a.jobs ++ b.jobs, a.events ++ b.events, a.counts + b.counts, b.error⟩ := by
      rw [DigReport.andThen, hok]
    refine ⟨?_, ?_, ?_⟩
    · rw [Dig.reached_append_of_passed hpassed]
      exact ha.accounts.andThen hb.accounts hok
    · rw [Dig.passed_append, and_iff_right hpassed, ← hb.error, h]
    · rw [h]
      show a.counts.propertiesResolved + b.counts.propertiesResolved = 0
      rw [ha.resolved, hb.resolved]
  · obtain ⟨e, he⟩ := Option.ne_none_iff_exists'.mp hok
    have hstopped := mt ha.error.mpr hok
    rw [andThen_of_error he]
    refine ⟨?_, ?_, ha.resolved⟩
    · rw [Dig.reached_append_of_stopped hstopped]
      exact ha.accounts
    · rw [Dig.passed_append]
      exact iff_of_false hok fun h => hstopped h.1

theorem inTurn {α : Type} {f : α → DigReport} {g : α → List (Except DispatchError Weighed)} (xs : List α)
    (h : ∀ x ∈ xs, Runs accepting limit userId (f x) (g x)) :
    Runs accepting limit userId (DigReport.inTurn (xs.map f)) (xs.flatMap g) := by
  induction xs with
  | nil => exact nothing
  | cons x xs ih =>
    obtain ⟨hx, hxs⟩ := List.forall_mem_cons.mp h
    rw [List.flatMap_cons]
    exact hx.andThen (ih hxs)

end Runs

variable {accepting : Bool} {scope : DigScope}

theorem runs_ofValue (accepting : Bool) (limit : Int) (userId : Option String) (p : ContentProperty)
    (place : Option Nat × Nat) :
    Runs accepting limit userId (ofValue accepting p limit userId place.1 place.2)
      [.ok ⟨p, place.1, place.2⟩] := by
  obtain ⟨index, length⟩ := place
  have hfits : Weighed.fits limit ⟨p, index, length⟩ = true ↔ ¬(limit ≠ -1 ∧ limit < length) := by
    rw [Weighed.fits, withinLimit_iff]
    show limit = -1 ∨ (length : Int) ≤ limit ↔ _
    omega
  rw [ofValue]
  by_cases hl : limit ≠ -1 ∧ limit < length
  · -- Too long: skipped, whether the queue accepts jobs or not.
    have hv : Weighed.fits limit ⟨p, index, length⟩ = false :=
      Bool.eq_false_iff.mpr fun h => hfits.mp h hl
    have hreached : Dig.reached accepting limit [.ok ⟨p, index, length⟩] = [⟨p, index, length⟩] := by
      rw [Dig.reached, if_neg (by simp [hv]), Dig.reached]
    rw [if_pos hl]
    refine ⟨?_, iff_of_true rfl (by rw [Dig.Passed, hreached]; rfl), rfl⟩
    rw [hreached]
    refine ⟨⟨?_, rfl, ?_, ?_⟩, rfl, rfl⟩
    · simp [hv]
    · simp [hv, AuditEvent.skipped?]
    · simp [AuditEvent.skipped?]
  · -- Within the limit: submitted, or the end where the queue refuses the job.
    have hv : Weighed.fits limit ⟨p, index, length⟩ = true := hfits.mpr hl
    rw [if_neg hl]
    cases accepting with
    | true =>
      have hreached : Dig.reached true limit [.ok ⟨p, index, length⟩] = [⟨p, index, length⟩] := rfl
      refine ⟨?_, iff_of_true rfl rfl, rfl⟩
      rw [hreached]
      refine ⟨⟨?_, rfl, ?_, ?_⟩, rfl, rfl⟩
      · simp [hv, Weighed.job]
      · simp [hv, AuditEvent.skipped?]
      · simp [AuditEvent.submitted?]
    | false =>
      have hreached : Dig.reached false limit [.ok ⟨p, index, length⟩] = [] := by
        rw [Dig.reached, if_pos (by simp [hv])]
      refine ⟨?_, iff_of_false ?_ ?_, rfl⟩
      · rw [hreached]
        exact .quiet ⟨rfl, rfl⟩
      · intro h
        cases h
      · rw [Dig.Passed, hreached]
        intro h
        cases h

theorem runs_ofProperty (accepting : Bool) (limit : Int) (userId : Option String) (p : ContentProperty) :
    Runs accepting limit userId (ofProperty accepting p limit userId) (p.weighed.map .ok) := by
  have h := Runs.inTurn p.places fun place _ => runs_ofValue accepting limit userId p place
  rw [ContentProperty.weighed, List.map_map]
  rwa [← List.map_eq_flatMap] at h

theorem runs_ofProperties (ps : List ContentProperty) :
    Runs accepting scope.maxLength none (ofProperties accepting scope ps)
      (Dig.spread ((ps.filter scope.wants).map .ok)) := by
  have h := Runs.inTurn (ps.filter scope.wants) fun p _ => runs_ofProperty accepting scope.maxLength none p
  rw [Dig.spread, List.flatMap_map]
  exact h

theorem runs_ofVisit (properties : Except RepositoryError (List ContentProperty)) :
    Runs accepting scope.maxLength none (ofVisit accepting scope properties)
      (Dig.spread (Dig.sightsAt scope properties)) := by
  cases properties with
  | error e => exact Runs.visited.andThen (Runs.failed _)
  | ok ps => exact Runs.visited.andThen (runs_ofProperties ps)

mutual

theorem runs_ofTree (start : Nat) (n : ContentNode) :
    Runs accepting scope.maxLength none (ofTree accepting scope start n)
      (Dig.spread (Dig.sights scope start n)) := by
  match n with
  | .mk path depth properties children =>
    rw [ofTree, Dig.sights, Dig.spread, List.flatMap_append]
    refine (runs_ofVisit properties).andThen ?_
    split
    · exact runs_ofListing start children
    · exact Runs.nothing

theorem runs_ofListing (start : Nat) (children : Except RepositoryError (List ContentNode)) :
    Runs accepting scope.maxLength none (ofListing accepting scope start children)
      (Dig.spread (Dig.sightsBelow scope start children)) := by
  match children with
  | .error e =>
    rw [ofListing, Dig.sightsBelow]
    exact Runs.failed _
  | .ok nodes =>
    rw [ofListing, Dig.sightsBelow]
    exact runs_ofTrees start nodes

theorem runs_ofTrees (start : Nat) (ns : List ContentNode) :
    Runs accepting scope.maxLength none (ofTrees accepting scope start ns)
      (Dig.spread (Dig.sightsAll scope start ns)) := by
  match ns with
  | [] =>
    rw [ofTrees, Dig.sightsAll]
    exact Runs.nothing
  | n :: ns =>
    rw [ofTrees, Dig.sightsAll, Dig.spread, List.flatMap_append]
    exact (runs_ofTree start n).andThen (runs_ofTrees start ns)

end

end DigReport

end Sentinel
