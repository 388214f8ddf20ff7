import Sentinel.Proofs.Content.Reading
import Sentinel.Proofs.Detection
import Sentinel.Proofs.Dig.Reconciled
import Sentinel.Proofs.Jobs.Intake
/-!
# Opening what a dig found

Digs trust what properties are described as, and a run of the jobs opens the values. Every property that a
view lists, that a session describes or that a dig weighs the values of is the description of a stored
property; so the value of a job is there, with the length that was weighed. A property with an only value
that is missing is the exception, and its job fails.

1. `describes_of_mem_propertiesOf`, `describes_of_property?`, `describes_of_mem_sights`: what is described
   is stored.
2. `serves_of_describes`: the job for a value of a described property opens it.
3. `weighs_of_tree`, `weighs_of_runTask`: both kinds of digs weigh values of described properties.
4. `described_readable`: what sessions, views and digs say of values is so.
-/

namespace Sentinel

namespace Repository

variable {r : Repository} {p path : String} {d : Nat} {c : ContentProperty} {s : StoredProperty}
variable {scope : DigScope} {start : Nat}

/-- A property is described as it is stored. -/
structure Describes (r : Repository) (c : ContentProperty) (s : StoredProperty) : Prop where
  stored : r.stored? c.path = .ok s
  described : c = s.describe c.path

theorem properties_view (hf : r.failing = []) (hp : p ∈ r.nodes.keys) (d : Nat) :
    (r.view p d).properties = .ok (r.propertiesOf p) := by
  have h := properties_nodeAt hf hp
  rw [nodeAt, view_eq hf] at h
  rw [view_eq hf]
  exact h

theorem describes_of_mem_propertiesOf (h : r.IsSound) (hf : r.failing = []) (hp : p ∈ r.nodes.keys)
    (hc : c ∈ r.propertiesOf p) : ∃ s, r.Describes c s := by
  obtain ⟨m, hm⟩ := KeyMap.mem_keys.mp hp
  rw [propertiesOf, hm] at hc
  obtain ⟨e, he, rfl⟩ := List.mem_map.mp hc
  exact ⟨e.2, stored?_child h hf hm he, rfl⟩

theorem describes_of_property? (hc : Session.property? ⟨r⟩ path = .ok c) : ∃ s, r.Describes c s := by
  obtain ⟨s, hs, hdescribe⟩ := bind_eq_ok.mp hc
  obtain rfl : s.describe path = c := Except.ok.inj hdescribe
  exact ⟨s, hs, rfl⟩

theorem mem_sightsAll {x : Except DispatchError ContentProperty} {ns : List ContentNode} :
    x ∈ Dig.sightsAll scope start ns ↔ ∃ n ∈ ns, x ∈ Dig.sights scope start n := by
  induction ns with
  | nil => simp [Dig.sightsAll]
  | cons n ns ih => rw [Dig.sightsAll, List.mem_append, ih, List.exists_mem_cons_iff]

theorem describes_of_mem_sights {p : String} {d : Nat} (h : r.IsSound) (hf : r.failing = [])
    (hp : p ∈ r.nodes.keys) (hc : .ok c ∈ Dig.sights scope start (r.view p d)) : ∃ s, r.Describes c s := by
  -- By recursion along the views, as they are built.
  have ih (q : String) (hq : q ∈ r.childPaths p) (hc : .ok c ∈ Dig.sights scope start (r.view q (d + 1))) :
      ∃ s, r.Describes c s := describes_of_mem_sights h hf (List.mem_filter.mp hq).1 hc
  have hproperties : r.propertiesAt p = .ok (r.propertiesOf p) := by
    have hview := properties_view hf hp d
    rwa [view_eq hf] at hview
  rw [view_eq hf, hproperties, Dig.sights] at hc
  rcases List.mem_append.mp hc with hc | hc
  · obtain ⟨c', hc', heq⟩ := List.mem_map.mp hc
    obtain rfl := Except.ok.inj heq
    exact describes_of_mem_propertiesOf h hf hp (List.mem_filter.mp hc').1
  · split at hc
    · rw [Dig.sightsBelow] at hc
      obtain ⟨n, hn, hc⟩ := mem_sightsAll.mp hc
      obtain ⟨q, hq, rfl⟩ := List.mem_map.mp hn
      exact ih q hq hc
    · cases hc
termination_by r.longest + 1 - p.length
decreasing_by exact measure_childPaths_lt hq

end Repository

namespace Dig

variable {accepting : Bool} {limit : Int} {w : Weighed}

theorem mem_of_mem_reached {es : List (Except DispatchError Weighed)} (h : w ∈ reached accepting limit es) :
    .ok w ∈ es := by
  induction es with
  | nil => cases h
  | cons e es ih =>
    cases e with
    | error e => cases h
    | ok v =>
      rw [reached] at h
      split at h
      · cases h
      · rcases List.mem_cons.mp h with rfl | h
        · exact List.mem_cons_self
        · exact List.mem_cons_of_mem _ (ih h)

theorem mem_spread {sights : List (Except DispatchError ContentProperty)} (h : .ok w ∈ spread sights) :
    ∃ c, .ok c ∈ sights ∧ w ∈ c.weighed := by
  obtain ⟨sight, hsight, hw⟩ := List.mem_flatMap.mp h
  cases sight with
  | error e =>
    cases List.mem_singleton.mp hw
  | ok c =>
    obtain ⟨v, hv, heq⟩ := List.mem_map.mp hw
    exact ⟨c, hsight, Except.ok.inj heq ▸ hv⟩

end Dig

namespace Repository

variable {r : Repository} {p : String} {d : Nat} {c : ContentProperty} {s : StoredProperty} {w : Weighed}
variable {scope : DigScope} {userId : Option String}

/-- The job for a value opens it, with the length that was weighed; where an only value is missing, its
length is none and its job finds nothing. -/
structure Serves (r : Repository) (userId : Option String) (w : Weighed) (s : StoredProperty) : Prop where
  opens : ¬s.IsHollow → ∃ v : ContentValue, v.length = w.length ∧
    Runner.openValue r (w.job userId) = .ok (w.property.propertyType, .ofBytes v.bytes)
  misses : s.IsHollow → w.length = 0 ∧
    Runner.openValue r (w.job userId) = .error (.repositoryAccess (.notFound w.property.path))

theorem serves_of_describes (ha : r.available = true) (hc : r.Describes c s) (hw : w ∈ c.weighed)
    (ht : c.propertyType.isScannable = true) : r.Serves userId w s := by
  obtain ⟨place, hplace, rfl⟩ := List.mem_map.mp hw
  have htype : s.propertyType = c.propertyType := by rw [hc.described, StoredProperty.describe]
  refine ⟨fun hfull => ?_, fun hhollow => ?_⟩
  · have hplaces := StoredProperty.places_describe (fun hm hv => hfull ⟨hm, hv⟩) c.path
    rw [← hc.described] at hplaces
    obtain ⟨slot, hslot, rfl⟩ := List.mem_map.mp (hplaces ▸ hplace)
    have hopen := Runner.openValue_of_leadsTo
      (ScanJob.leadsTo_of_mem_slots (j := Weighed.job userId ⟨c, slot.1, slot.2.length⟩) ha hc.stored hslot
        (htype ▸ ht))
    exact ⟨slot.2, rfl, htype ▸ hopen⟩
  · have hplaces : c.places = [(none, 0)] := by
      rw [hc.described, ContentProperty.places, StoredProperty.describe, hhollow.1, hhollow.2]
      rfl
    obtain rfl := List.mem_singleton.mp (hplaces ▸ hplace)
    exact ⟨rfl, Runner.openValue_of_obstacle
      (.noValue ha hc.stored hhollow.1 rfl (htype ▸ ht) hhollow.2)⟩

/-- A property whose only value is missing is described as empty, and no access gives a value. -/
theorem misses_describe (hc : r.Describes c s) (hh : s.IsHollow) : c.lengths = .single 0 ∧
    Session.value? ⟨r⟩ c.path none = .error (.notFound c.path) ∧
    ∀ i, ∃ e, Session.value? ⟨r⟩ c.path (some i) = .error e := by
  refine ⟨?_, Session.value?_of_hollow hc.stored hh, fun i =>
    Session.value?_of_misfit hc.stored (by simp [hh.1])⟩
  rw [hc.described, StoredProperty.describe, hh.1, hh.2]
  rfl

/-- A dig weighs values of properties that are described as they are stored, and submits a job for each that
is within its limit. The jobs serve, if sessions can be opened, for types that can be scanned. -/
structure Weighs (r : Repository) (limit : Int) (userId : Option String) (weighed : List Weighed)
    (before after : JobQueue) : Prop where
  queue : after = before.extended ((weighed.filter (·.fits limit)).map (Weighed.job userId))
  served : ∀ w ∈ weighed, ∃ s, r.Describes w.property s ∧
    (r.available = true → w.property.propertyType.isScannable = true → r.Serves userId w s)

theorem serves_of_mem_weighed (hc : ∃ s, r.Describes c s) (hw : w ∈ c.weighed) :
    ∃ s, r.Describes w.property s ∧
      (r.available = true → w.property.propertyType.isScannable = true → r.Serves userId w s) := by
  have hproperty : w.property = c := by
    obtain ⟨place, -, rfl⟩ := List.mem_map.mp hw
    rfl
  obtain ⟨s, hs⟩ := hc
  rw [hproperty]
  exact ⟨s, hs, fun ha => serves_of_describes ha hs hw⟩

theorem describes_of_mem_resolved {settings : ChangeDigSettings} {task : DigTask}
    (hc : c ∈ ChangeDigger.resolved settings r task) : ∃ s, r.Describes c s := by
  rw [ChangeDigger.resolved] at hc
  cases hsession : Session.openOn r with
  | error e =>
    rw [hsession] at hc
    cases hc
  | ok session =>
    rw [hsession] at hc
    obtain rfl := ChangeDigger.eq_of_openOn hsession
    obtain ⟨path, -, hc⟩ := List.mem_filterMap.mp hc
    rw [ChangeDigger.resolve?] at hc
    cases hproperty : Session.property? ⟨r⟩ path with
    | error e =>
      rw [hproperty] at hc
      cases hc
    | ok c' =>
      rw [hproperty] at hc
      dsimp only at hc
      split at hc
      · obtain rfl := Option.some.inj hc
        exact describes_of_property? hproperty
      · cases hc

theorem weighs_of_tree (h : r.IsSound) (hf : r.failing = []) (hp : p ∈ r.nodes.keys) (d : Nat)
    (scope : DigScope) (state : DigState) :
    ∃ weighed, r.Weighs scope.maxLength none weighed state.queue
      ((Dig.tree (r.view p d) scope).run.run state).2.queue := by
  cases hcheck : Dig.checkScope scope with
  | error e =>
    -- A scope that is refused leaves the queue as it is.
    refine ⟨[], ?_, fun w hw => absurd hw List.not_mem_nil⟩
    rw [Dig.tree, hcheck]
    exact state.queue.extended_nil.symm
  | ok u =>
    obtain ⟨a, hqueue, -, hruns, -⟩ :=
      DigCall.accounts_at ⟨r.view p d, scope, Dig.isValid_of_checkScope hcheck⟩ state
    refine ⟨_, hqueue.trans (congrArg _ hruns.accounts.tallies.jobs), fun w hw => ?_⟩
    obtain ⟨c, hc, hwc⟩ := Dig.mem_spread (Dig.mem_of_mem_reached hw)
    exact serves_of_mem_weighed (describes_of_mem_sights h hf hp hc) hwc

theorem weighs_of_runTask (settings : ChangeDigSettings) (task : DigTask) (state : DigState) :
    ∃ weighed, r.Weighs settings.maxLength task.userId weighed state.queue
      ((ChangeDigger.runTask settings r task).run state).2.queue := by
  obtain ⟨a, hqueue, -, -, haccounts, -⟩ :=
    ChangeDigger.resolves_runTask settings r task state (Bool.not_not _).symm
  refine ⟨_, hqueue.trans (congrArg _ haccounts.tallies.jobs), fun w hw => ?_⟩
  obtain ⟨c, hc, hwc⟩ := List.mem_flatMap.mp hw
  obtain ⟨v, hv, heq⟩ := List.mem_map.mp (Dig.mem_of_mem_reached hwc)
  obtain rfl := Except.ok.inj heq
  exact serves_of_mem_weighed (describes_of_mem_resolved hc) hv

/-- What is described can be read, in a reachable repository without failing access. A property that a view
lists or a session describes is the description of a stored one, and unless its only value is missing its
lengths are those of the values that can be read. Digs submit jobs for values of such properties within
their limits; the job for a value of a type that can be scanned opens it, with the length that was weighed,
and again the only exception is a value that is missing. -/
theorem described_readable (h : r.Reachable) (hf : r.failing = []) :
    (∀ c, ((∃ p d ps, Viewed r p d ∧ (r.view p d).properties = .ok ps ∧ c ∈ ps) ∨
        ∃ path, Session.property? ⟨r⟩ path = .ok c) →
      ∃ s, r.Describes c s ∧ (¬s.IsHollow → Session.Reads ⟨r⟩ c) ∧
        (s.IsHollow → c.lengths = .single 0 ∧ Session.value? ⟨r⟩ c.path none = .error (.notFound c.path) ∧
          ∀ i, ∃ e, Session.value? ⟨r⟩ c.path (some i) = .error e)) ∧
      ∀ state : DigState,
        (∀ p d scope, Viewed r p d → ∃ weighed, r.Weighs scope.maxLength none weighed state.queue
          ((Dig.tree (r.view p d) scope).run.run state).2.queue) ∧
        ∀ settings task, ∃ weighed, r.Weighs settings.maxLength task.userId weighed state.queue
          ((ChangeDigger.runTask settings r task).run state).2.queue := by
  have hsound := isSound_of_reachable h
  refine ⟨fun c hc => ?_, fun state => ⟨fun p d scope hview =>
    weighs_of_tree hsound hf (depth_of_viewed hview).1 d scope state, fun settings task =>
    weighs_of_runTask settings task state⟩⟩
  have hdescribed : ∃ s, r.Describes c s := by
    rcases hc with ⟨p, d, ps, hview, hps, hc⟩ | ⟨path, hpath⟩
    · have hp := (depth_of_viewed hview).1
      rw [properties_view hf hp] at hps
      exact describes_of_mem_propertiesOf hsound hf hp (Except.ok.inj hps ▸ hc)
    · exact describes_of_property? hpath
  obtain ⟨s, hs⟩ := hdescribed
  exact ⟨s, hs, fun hfull => hs.described ▸ Session.reads_describe hs.stored hfull, misses_describe hs⟩

/-- A property with several values, and one whose only value is missing. -/
def drawer : Repository :=
  (Repository.empty.setProperty "/drawer/pages" ⟨.binary, [.binary [1], .binary [2, 3]], true⟩).setProperty
    "/drawer/cover" ⟨.binary, [], false⟩

theorem reachable_drawer : drawer.Reachable :=
  (Reachable.empty.setProperty _ _ (by decide)).setProperty _ _ (by decide)

theorem described_readable_drawer :
    drawer.Reachable ∧ drawer.failing = [] ∧
      Session.Reads ⟨drawer⟩ ⟨"/drawer/pages", .binary, .multiple [1, 2]⟩ := by
  have hproperty : Session.property? ⟨drawer⟩ "/drawer/pages" =
      .ok ⟨"/drawer/pages", .binary, .multiple [1, 2]⟩ := rfl
  obtain ⟨s, -, hreads, hhollow⟩ := (described_readable reachable_drawer rfl).1 _ (.inr ⟨_, hproperty⟩)
  refine ⟨reachable_drawer, rfl, hreads fun hh => ?_⟩
  cases (hhollow hh).1

/-- A property whose only value is missing is described as one with an empty value; there is no value to read,
and the job for it finds nothing. -/
theorem described_hollow :
    drawer.Reachable ∧ drawer.failing = [] ∧
      Session.property? ⟨drawer⟩ "/drawer/cover" = .ok ⟨"/drawer/cover", .binary, .single 0⟩ ∧
      Session.value? ⟨drawer⟩ "/drawer/cover" none = .error (.notFound "/drawer/cover") ∧
      Runner.openValue drawer ⟨"/drawer/cover", none, none, .binary⟩ =
        .error (.repositoryAccess (.notFound "/drawer/cover")) :=
  ⟨reachable_drawer, rfl, rfl, rfl, rfl⟩

end Repository

end Sentinel
