import Sentinel.Proofs.Dig.Coverage
import Sentinel.Proofs.Outcome
/-!
# Detection

A dig of a repository and a run of the jobs that it submits, as one: the dispatcher hears of exactly
the values that the scope of the dig is for, each once, with what the engine says of its bytes.

1. `jobs_propertiesOf`: the jobs for the properties of a node are the jobs for the values that are
   wanted there.
2. `isOpen_of_mem_targetsAt`: each of these jobs leads to its value.
3. `runPending_tree`: no value is missed, none is scanned that is not wanted, and no signature is
   missed or made up.
-/

namespace Sentinel

namespace StoredProperty

/-- The values of a stored property with their indexes; an only value has none. -/
def slots (s : StoredProperty) : List (Option Nat × ContentValue) :=
  if s.multiple then s.values.zipIdx.map fun (v, i) => (some i, v)
  else s.values.head?.toList.map fun v => (none, v)

theorem mem_slots {s : StoredProperty} {index : Option Nat} {v : ContentValue}
    (h : (index, v) ∈ s.slots) :
    s.multiple = true ∧ (∃ i, index = some i ∧ s.values[i]? = some v) ∨
      s.multiple = false ∧ index = none ∧ s.values.head? = some v := by
  rw [slots] at h
  split at h
  · next hm =>
    obtain ⟨⟨w, i⟩, hw, heq⟩ := List.mem_map.mp h
    obtain ⟨rfl, rfl⟩ := Prod.mk.inj heq
    exact .inl ⟨hm, i, rfl, List.mem_zipIdx_iff_getElem?.mp hw⟩
  · next hm =>
    obtain ⟨w, hw, heq⟩ := List.mem_map.mp h
    obtain ⟨rfl, rfl⟩ := Prod.mk.inj heq
    exact .inr ⟨by simpa using hm, rfl, Option.mem_toList.mp hw⟩

theorem places_describe {s : StoredProperty} (hs : s.multiple = false → s.values ≠ [])
    (path : String) :
    (s.describe path).places = s.slots.map fun slot => (slot.1, slot.2.length) := by
  rw [describe, ContentProperty.places, slots]
  cases hm : s.multiple with
  | true =>
    simp only [if_true, List.zipIdx_map, List.map_map]
    rfl
  | false =>
    obtain ⟨v, vs, hv⟩ := List.exists_cons_of_ne_nil (hs hm)
    rw [hv]
    rfl

end StoredProperty

theorem ScanJob.leadsTo_of_mem_slots {r : Repository} {j : ScanJob} {s : StoredProperty}
    {v : ContentValue} (ha : r.available = true) (hs : r.stored? j.path = .ok s)
    (hv : (j.index, v) ∈ s.slots) (ht : s.propertyType.isScannable = true) : j.LeadsTo r s v := by
  rcases StoredProperty.mem_slots hv with ⟨hm, i, hi, hvi⟩ | ⟨hm, hi, hvi⟩
  · obtain ⟨hlt, -⟩ := List.getElem?_eq_some_iff.mp hvi
    have hrange : ∀ k ∈ j.index, k < s.values.length := by simpa [hi] using hlt
    exact ⟨ha, hs, by rw [hi, hm]; rfl, hrange, ht, by rw [hi]; exact hvi⟩
  · exact ⟨ha, hs, by rw [hi, hm]; rfl, by simp [hi], ht, by rw [hi]; exact hvi⟩

namespace Repository

variable {r : Repository} {scope : DigScope} {q : String}

/-- Every single-valued property has its value. -/
def IsFilled (r : Repository) : Prop :=
  ∀ p m, r.nodes.get? p = some m → ∀ e ∈ m.entries, e.2.multiple = false → e.2.values ≠ []

/-- The values at a node that a dig is for: those of properties of a wanted type whose path is
accepted, within the limit of length. -/
def targetsAt (r : Repository) (scope : DigScope) (q : String) : List Target :=
  (((r.nodes.get? q).getD KeyMap.empty).entries.filter fun e =>
      scope.types.contains e.2.propertyType && scope.accepts (Path.child q e.1)).flatMap fun e =>
    (e.2.slots.filter fun slot => withinLimit slot.2.length scope.maxLength).map fun slot =>
      ⟨⟨Path.child q e.1, slot.1, e.2.propertyType, none⟩, slot.2.bytes⟩

theorem jobs_propertiesOf (hr : r.IsFilled) (hq : q ∈ r.nodes.keys) :
    scope.jobs (r.propertiesOf q) = (r.targetsAt scope q).map Target.job := by
  obtain ⟨m, hm⟩ := KeyMap.mem_keys.mp hq
  have hfilled := hr q m hm
  rw [targetsAt, propertiesOf, hm, Option.getD_some, DigScope.jobs, List.filter_map,
    List.flatMap_map, List.map_flatMap]
  refine List.flatMap_congr fun e he => ?_
  rw [DigScope.jobsOf, StoredProperty.places_describe (hfilled e (List.mem_filter.mp he).1),
    List.filter_map, List.map_map, List.map_map]
  rfl

theorem isOpen_of_mem_targetsAt (h : r.IsSound) (hf : r.failing = []) (ha : r.available = true)
    (ht : ∀ t ∈ scope.types, t.isScannable = true) (hq : q ∈ r.nodes.keys) {t : Target}
    (hmem : t ∈ r.targetsAt scope q) : t.IsOpen r := by
  obtain ⟨m, hm⟩ := KeyMap.mem_keys.mp hq
  rw [targetsAt, hm] at hmem
  obtain ⟨e, he, hmem⟩ := List.mem_flatMap.mp hmem
  obtain ⟨⟨index, v⟩, hslot, rfl⟩ := List.mem_map.mp hmem
  obtain ⟨he, hwanted⟩ := List.mem_filter.mp he
  have hslot := (List.mem_filter.mp hslot).1
  have hscannable : e.2.propertyType.isScannable = true :=
    ht _ (List.contains_iff_mem.mp (Bool.and_eq_true_iff.mp hwanted).1)
  refine ⟨?_, Runner.openValue_of_leadsTo
    (ScanJob.leadsTo_of_mem_slots ha (stored?_child h hf hm he) hslot hscannable)⟩
  -- An index counts values, and there are no more of them than a machine word can count.
  intro i hi
  rcases StoredProperty.mem_slots hslot with ⟨-, k, hk, hvk⟩ | ⟨-, hnone, -⟩
  · obtain ⟨hlt, -⟩ := List.getElem?_eq_some_iff.mp hvk
    have hik : k = i := Option.some.inj (hk.symm.trans hi)
    have hcount := (h.properties q m hm e he).2
    omega
  · cases hnone.symm.trans hi

theorem nodup_targets (h : r.IsSound) (hr : r.IsFilled) {qs : List String}
    (hqs : ∀ q ∈ qs, q ∈ r.nodes.keys) (hnodup : qs.Nodup) :
    ((qs.flatMap (r.targetsAt scope)).map Target.subject).Nodup := by
  let name (j : ScanJob) : String × Option Nat := (j.path, j.index)
  have hoffers : (qs.flatMap fun q => scope.offers (r.propertiesOf q)).Nodup :=
    nodup_offers h hqs hnodup
  have hnames : ((qs.flatMap (r.targetsAt scope)).map fun t => name t.job).Nodup := by
    refine List.Nodup.sublist ?_ hoffers
    rw [List.map_flatMap]
    refine List.Sublist.flatMap_right _ fun q hq => ?_
    have hat : (r.targetsAt scope q).map (fun t => name t.job) =
        (scope.jobs (r.propertiesOf q)).map name := by
      rw [jobs_propertiesOf hr (hqs q hq), List.map_map]
      rfl
    rw [hat]
    exact sublist_offers _
  refine List.pairwise_map.mpr ((List.pairwise_map.mp hnames).imp ?_)
  intro t u htu heq
  exact htu (congrArg (fun v : Subject => (v.path, v.index)) heq)

end Repository

namespace Runner

variable {σ : Type} {r : Repository} {scope : DigScope} {p : String}

/-- A dig into an empty queue and a run of what it submitted, with an engine that works. No job fails
and none is left; the dispatcher is called once for each value that the dig is for, in the order of
the dig, with what the value is called and with a result that is right about its bytes. -/
theorem runPending_tree (hr : r.Reachable) (hf : r.failing = []) (ha : r.available = true)
    (hfilled : r.IsFilled) (hp : p ∈ r.nodes.keys) (hs : scope.IsValid)
    (ht : ∀ t ∈ scope.types, t.isScannable = true) (trail : Trail) (counts : DigSummary)
    (d : Dispatcher σ) (s : RunState σ) (hworks : s.engine.failing = false)
    (hstatus : s.engine.errorStatus = none) :
    let targets := (r.covered p scope.maxDepth).flatMap (r.targetsAt scope)
    let dug := (Dig.tree (r.nodeAt p) scope).run.run ⟨.empty, trail, counts⟩
    let ran := runPending r d dug.2.queue s
    r.node? p = .ok (r.nodeAt p) ∧ (∃ summary, dug.1 = .ok summary) ∧
      ran.1.map (·.2) = List.replicate targets.length .ok ∧ ran.2.1.jobs = [] ∧
      (targets.map Target.subject).Nodup ∧
      ∃ calls : List (ScanResult × Subject),
        List.Forall₂
          (fun call t => call.2 = t.subject ∧ Engine.Judges s.engine.signatures t.bytes call.1)
          calls targets ∧
        ran.2.2.sinks =
          calls.foldl (fun sinks call => ((d.dispatch call.1 call.2).run sinks).2) s.sinks ∧
        ran.2.2.engine.scans = s.engine.scans + targets.length := by
  intro targets dug ran
  have h := Repository.isSound_of_reachable hr
  have hkeys : ∀ q ∈ r.covered p scope.maxDepth, q ∈ r.nodes.keys := fun q hq =>
    (Repository.mem_covered.mp hq).1
  obtain ⟨report, hoffers, hrun⟩ := Dig.tree_run_accepted h hf hp hs ⟨.empty, trail, counts⟩ rfl
  have hdug : dug = (.ok report.counts, report.after ⟨.empty, trail, {}⟩) := hrun
  -- The dig leaves the jobs of the targets in the queue, and no others.
  have hjobs : report.jobs = targets.map Target.job := by
    rw [hoffers.jobs, List.map_flatMap]
    exact List.flatMap_congr fun q hq => Repository.jobs_propertiesOf hfilled (hkeys q hq)
  have hqueue : dug.2.queue.jobs = targets.map (·.job.queued) := by
    rw [hdug]
    show [] ++ report.jobs.map ScanJob.queued = _
    rw [hjobs, List.nil_append, List.map_map]
    rfl
  have hopen : ∀ t ∈ targets, t.IsOpen r := by
    intro t hmem
    obtain ⟨q, hq, hmem⟩ := List.mem_flatMap.mp hmem
    exact Repository.isOpen_of_mem_targetsAt h hf ha ht (hkeys q hq) hmem
  have hran : ran = (targets.map fun t => (t.job.queued, .ok), { dug.2.queue with jobs := [] },
      (calls s.engine targets).foldl (afterCall d) s) := runPending_run hopen hqueue hworks
  have hcalls := forall₂_calls hstatus targets
  refine ⟨Repository.node?_eq hf hp, ⟨report.counts, by rw [hdug]⟩, ?_, by rw [hran],
    Repository.nodup_targets h hfilled hkeys (Repository.nodup_covered _),
    calls s.engine targets, hcalls, ?_, ?_⟩
  · rw [hran, List.map_map]
    exact List.map_const' ..
  · rw [hran]
    exact sinks_foldl_afterCall _ _
  · rw [hran, ← hcalls.length_eq]
    exact scans_foldl_afterCall _ _

/-- A binary value below `/a` beside a property of two texts. -/
def marked : Repository :=
  (Repository.empty.setProperty "/a/data" ⟨.binary, [.binary [7, 1, 2, 7]], false⟩).setProperty
    "/a/names" ⟨.string, [.text "x", .text "y"], true⟩

/-- An engine that looks for two bytes in a row. -/
def markEngine : Engine where
  name := "marks"
  signatures := [⟨"Mark", [1, 2]⟩]
  failing := false
  errorStatus := none
  healthy := true
  scans := 0
  clock := fun _ => default

/-- A handler that keeps what it is called with. -/
def keeper : Handler (List (ScanResult × Subject)) :=
  .uniform "keeper" fun r s => modify fun kept => kept ++ [(r, s)]

/-- A dig for binary values finds the marked one, and the run reports it to a handler. -/
theorem runPending_tree_marked :
    marked.Reachable ∧ marked.IsFilled ∧ (DigScope.binaries (-1)).IsValid ∧
      ∃ result : ScanResult,
        result.status = .infected ∧ result.message = "Mark FOUND" ∧ result.size = 4 ∧
        (runPending marked (Dispatcher.empty.attach keeper).2
          ((Dig.tree (marked.nodeAt "/") (.binaries (-1))).run.run ⟨.empty, [], {}⟩).2.queue
          ⟨markEngine, [], []⟩).2.2.sinks = [(result, ⟨"/a/data", none, .binary, none⟩)] := by
  have hr : marked.Reachable := by
    have hdata := Repository.Reachable.empty.setProperty "/a/data" ⟨.binary, [.binary [7, 1, 2, 7]], false⟩
      (by decide)
    exact hdata.setProperty _ _ (by decide)
  have hfilled : marked.IsFilled := by
    have hall : ∀ n ∈ marked.nodes.entries, ∀ e ∈ n.2.entries,
        e.2.multiple = false → e.2.values ≠ [] := by decide +kernel
    intro q m hm
    exact hall (q, m) ((KeyMap.get?_eq_some_iff _).mp hm)
  have hs : (DigScope.binaries (-1)).IsValid := ⟨by decide, by decide, by decide⟩
  have htargets : (marked.covered "/" (DigScope.binaries (-1)).maxDepth).flatMap
      (marked.targetsAt (.binaries (-1))) =
      [⟨⟨"/a/data", none, .binary, none⟩, [7, 1, 2, 7]⟩] := by decide +kernel
  have hroot : "/" ∈ marked.nodes.keys := by decide +kernel
  obtain ⟨-, -, -, -, -, calls, hcalls, hsinks, -⟩ := runPending_tree hr (by decide +kernel)
    (by decide +kernel) hfilled hroot hs (by decide) [] {} (Dispatcher.empty.attach keeper).2
    ⟨markEngine, [], []⟩ rfl rfl
  -- There is one value that the dig is for, so there is one call.
  rw [htargets] at hcalls
  obtain ⟨⟨result, subject⟩, rest, ⟨hsubject, hjudges⟩, hrest, rfl⟩ :=
    List.forall₂_cons_right_iff.mp hcalls
  obtain rfl : subject = ⟨"/a/data", none, .binary, none⟩ := hsubject
  obtain rfl := List.forall₂_nil_right_iff.mp hrest
  have hmark : (⟨"Mark", [1, 2]⟩ : Signature).Marks [7, 1, 2, 7] := ⟨by decide, [7], [7], rfl⟩
  have hinfected : result.status = .infected :=
    hjudges.infected.mpr ⟨_, List.mem_singleton_self _, hmark⟩
  have hmessage : result.message = "Mark FOUND" := by
    obtain ⟨before, g, after, hsplit, -, -, hmessage⟩ := hjudges.named hinfected
    have hg : g ∈ markEngine.signatures := hsplit ▸ List.mem_append_right _ List.mem_cons_self
    rw [hmessage, List.mem_singleton.mp hg]
    decide
  refine ⟨hr, hfilled, hs, result, hinfected, hmessage, hjudges.size, ?_⟩
  rw [hsinks]
  rfl

end Runner

end Sentinel
