import Mathlib.Data.List.Forall2
import Sentinel.Proofs.Dig.Report
import Sentinel.Runner
/-!
# Running the jobs of a queue

What becomes of jobs that name readable values, when an engine that works runs them: each value is
scanned once, in order, and the dispatcher is called with what the engine says of it.

1. `ofTopic?_topic`: a job is read back from its topic and attributes.
2. `judges_resultFor`: what an engine says of some bytes.
3. `consume_run`: running a job whose value can be opened scans the value and calls the dispatcher.
4. `runPending_run`: so does running all waiting jobs, one after the other; the queue is empty then.
-/

namespace Sentinel

namespace ScanJob

theorem typeOfTopic?_scanTopic (t : PropertyType) : typeOfTopic? t.scanTopic = .ok t := by
  have hrest : Text.dropLead? (scanTopicRoot ++ "/").toList t.scanTopic.toList =
      some t.canonicalName.toList := by
    rw [Text.dropLead?_eq_some_iff, PropertyType.scanTopic, String.toList_append]
  rw [typeOfTopic?, hrest]
  simp only [String.ofList_toList, PropertyType.ofName?_name]

theorem get?_path_attributes (j : ScanJob) : j.attributes.get? "path" = some (.string j.path) := by
  obtain ⟨path, index, userId, propertyType⟩ := j
  cases index <;> cases userId <;> simp [attributes, KeyMap.get?_insert]

theorem get?_index_attributes (j : ScanJob) : j.attributes.get? "index" = j.index.map .ofNat := by
  obtain ⟨path, index, userId, propertyType⟩ := j
  cases index <;> cases userId <;> simp [attributes, KeyMap.get?_insert]

theorem get?_userId_attributes (j : ScanJob) : j.attributes.get? "userId" = j.userId.map .string := by
  obtain ⟨path, index, userId, propertyType⟩ := j
  cases index <;> cases userId <;> simp [attributes, KeyMap.get?_insert]

theorem word?_ofNat {i : Nat} (h : i < UInt64.size) : (Json.ofNat i).word? = some i := by
  have hlt : (i : Int) < UInt64.size := by exact_mod_cast h
  rw [Json.ofNat, Json.word?, if_pos ⟨Int.natCast_nonneg i, hlt⟩, Int.toNat_natCast]

theorem indexOf?_attributes (j : ScanJob) (topic : String) (h : ∀ i ∈ j.index, i < UInt64.size) :
    indexOf? topic j.attributes = .ok j.index := by
  have hget := get?_index_attributes j
  rw [indexOf?]
  cases hi : j.index with
  | none =>
    rw [hi] at hget
    rw [hget]
    rfl
  | some i =>
    rw [hi, Option.map_some] at hget
    split
    · next hn =>
      rw [hget] at hn
      cases hn
    · next hn =>
      rw [hget] at hn
      cases hn
    · next number _ hn =>
      rw [hget] at hn
      cases hn
      rw [word?_ofNat (h i hi)]

theorem ofTopic?_topic (j : ScanJob) (h : ∀ i ∈ j.index, i < UInt64.size) :
    ofTopic? j.topic j.attributes = .ok j := by
  have hpath : (j.attributes.get? "path").bind Json.text? = some j.path := by
    rw [get?_path_attributes]
    rfl
  have huser : (j.attributes.get? "userId").bind Json.text? = j.userId := by
    rw [get?_userId_attributes]
    cases j.userId <;> rfl
  rw [ofTopic?, topic, typeOfTopic?_scanTopic, hpath, huser]
  show (indexOf? j.propertyType.scanTopic j.attributes >>= fun index => _) = _
  rw [indexOf?_attributes j _ h]
  rfl

theorem isBelow_topic (j : ScanJob) : isBelow scanTopicRoot j.topic = true := by
  refine isBelow_iff.mpr ⟨j.propertyType.canonicalName.toList, ?_⟩
  rw [topic, PropertyType.scanTopic, String.toList_append, String.toList_append, List.append_assoc]
  rfl

end ScanJob

/-- The bytes in which a signature is found. -/
def Signature.Marks (g : Signature) (data : Bytes) : Prop := g.pattern ≠ [] ∧ g.pattern <:+: data

theorem Signature.isIn_iff {g : Signature} {data : Bytes} : g.isIn data = true ↔ g.Marks data := by
  rw [isIn, Bool.and_eq_true, isWithin_iff, Marks]
  simp

namespace Engine

/-- What an engine says of some bytes when it scans them next. -/
def resultFor (e : Engine) (data : Bytes) : ScanResult :=
  .make (e.verdict data).1 (e.verdict data).2 (e.clock (e.scans + 1)).1 (e.clock (e.scans + 1)).2
    data.length

/-- The engine behind a scan. -/
def afterScan (e : Engine) : Engine := { e with scans := e.scans + 1 }

/-- A result that is right about some bytes, for an engine with some signatures: the status says
whether one of them is found, and the message names the first one that is. -/
structure Judges (signatures : List Signature) (data : Bytes) (r : ScanResult) : Prop where
  size : r.size = data.length
  infected : r.status = .infected ↔ ∃ g ∈ signatures, g.Marks data
  clear : r.status ≠ .infected → r.status = .ok ∧ r.message = ""
  named : r.status = .infected → ∃ before g after, signatures = before ++ g :: after ∧
    (∀ f ∈ before, ¬f.Marks data) ∧ g.Marks data ∧ r.message = g.name ++ " FOUND"

theorem scan_ofBytes {e : Engine} (hf : e.failing = false) (data : Bytes) :
    e.scan (.ofBytes data) = (.ok (e.resultFor data), e.afterScan) := by
  have hcontents : (ValueStream.ofBytes data).contents = data := by
    rw [ValueStream.contents, ByteReader.readAll_fst]
    rfl
  have hf' : ¬e.afterScan.failing = true := by
    show ¬e.failing = true
    rw [hf]
    decide
  show (if e.afterScan.failing then _ else _) = _
  rw [if_neg hf', hcontents]
  rfl

theorem scan_failing {e : Engine} (hf : e.failing = true) (stream : ValueStream) :
    e.scan stream = (.error (.engineUnavailable e.name "simulated failure"), e.afterScan) := by
  have hf' : e.afterScan.failing = true := hf
  show (if e.afterScan.failing then _ else _) = _
  rw [if_pos hf']
  rfl

theorem judges_resultFor {e : Engine} (he : e.errorStatus = none) (data : Bytes) :
    Judges e.signatures data (e.resultFor data) := by
  cases hfind : e.signatures.find? (·.isIn data) with
  | none =>
    have hnone : ∀ g ∈ e.signatures, ¬g.Marks data := fun g hg hm =>
      List.find?_eq_none.mp hfind g hg (Signature.isIn_iff.mpr hm)
    have hverdict : e.verdict data = (.ok, "") := by
      simp [verdict, detect?, he, hfind]
    rw [resultFor, hverdict]
    refine ⟨rfl, ⟨?_, ?_⟩, fun _ => ⟨rfl, rfl⟩, ?_⟩
    · intro h
      cases h
    · rintro ⟨g, hg, hm⟩
      exact absurd hm (hnone g hg)
    · intro h
      cases h
  | some g =>
    obtain ⟨hg, before, after, hsplit, hbefore⟩ := List.find?_eq_some_iff_append.mp hfind
    have hmark : g.Marks data := Signature.isIn_iff.mp hg
    have hverdict : e.verdict data = (.infected, g.name ++ " FOUND") := by
      simp [verdict, detect?, he, hfind]
    rw [resultFor, hverdict]
    refine ⟨rfl, ⟨fun _ => ⟨g, List.mem_of_find?_eq_some hfind, hmark⟩, fun _ => rfl⟩,
      fun h => absurd rfl h, fun _ => ⟨before, g, after, hsplit, ?_, hmark, rfl⟩⟩
    intro f hf hm
    have hno := hbefore f hf
    rw [Signature.isIn_iff.mpr hm] at hno
    cases hno

end Engine

/-- A value to be scanned: what it is called, and its bytes. -/
structure Target where
  subject : Subject
  bytes : Bytes
deriving DecidableEq

namespace Target

def job (t : Target) : ScanJob where
  path := t.subject.path
  index := t.subject.index
  userId := t.subject.userId
  propertyType := t.subject.propertyType

/-- The job leads to the value: it can be read from a queue, and its value can be opened. -/
structure IsOpen (r : Repository) (t : Target) : Prop where
  index : ∀ i ∈ t.subject.index, i < UInt64.size
  value : Runner.openValue r t.job = .ok (t.subject.propertyType, .ofBytes t.bytes)

end Target

namespace Runner

variable {σ : Type} {r : Repository} {d : Dispatcher σ}

/-- The state behind the call of the dispatcher for one value. -/
def afterCall (d : Dispatcher σ) (s : RunState σ) (call : ScanResult × Subject) : RunState σ where
  engine := s.engine.afterScan
  trail := s.trail ++ [.scanCompleted (.ofResult call.1 call.2)] ++
    ((d.dispatch call.1 call.2).run s.sinks).1.events call.2
  sinks := ((d.dispatch call.1 call.2).run s.sinks).2

theorem scan_run {s : RunState σ} (hf : s.engine.failing = false) (data : Bytes) :
    (scan (.ofBytes data) : Runs σ ScanResult).run.run s =
      (.ok (s.engine.resultFor data), { s with engine := s.engine.afterScan }) := by
  have hget : (get : Runs σ (RunState σ)).run.run s = (.ok s, s) := rfl
  rw [scan, ExceptT.run_bind, StateT.run_bind, hget]
  show StateT.run _ s = _
  simp only [Engine.scan_ofBytes hf]
  rfl

theorem process_run {j : ScanJob} {t : PropertyType} {data : Bytes} {s : RunState σ}
    (ho : openValue r j = .ok (t, .ofBytes data)) (hf : s.engine.failing = false) :
    (process r d j).run.run s =
      (.ok (s.engine.resultFor data), afterCall d s (s.engine.resultFor data, j.subject t)) := by
  rw [process, ho]
  show (scan (.ofBytes data) >>= fun result => _ : Runs σ ScanResult).run.run s = _
  rw [ExceptT.run_bind, StateT.run_bind, scan_run hf]
  rfl

theorem consume_of_process_ok {j : ScanJob} {s s' : RunState σ} {result : ScanResult}
    (h : (process r d j).run.run s = (.ok result, s')) : (consume r d j).run s = (.ok, s') := by
  rw [consume, StateT.run_bind]
  show (let a := (process r d j).run.run s; _) = _
  rw [h]
  rfl

theorem consume_run {j : ScanJob} {t : PropertyType} {data : Bytes} {s : RunState σ}
    (ho : openValue r j = .ok (t, .ofBytes data)) (hf : s.engine.failing = false) :
    (consume r d j).run s = (.ok, afterCall d s (s.engine.resultFor data, j.subject t)) :=
  consume_of_process_ok (process_run ho hf)

/-- The calls of the dispatcher for some values: the result for each one and what it is called. -/
def calls : Engine → List Target → List (ScanResult × Subject)
  | _, [] => []
  | e, t :: ts => (e.resultFor t.bytes, t.subject) :: calls e.afterScan ts

theorem consumeQueued_run {t : Target} (ht : t.IsOpen r) {s : RunState σ}
    (hf : s.engine.failing = false) :
    (consumeQueued r d t.job.queued).run s =
      (.ok, afterCall d s (s.engine.resultFor t.bytes, t.subject)) := by
  have hread : ScanJob.ofTopic? t.job.queued.topic t.job.queued.attributes = .ok t.job :=
    ScanJob.ofTopic?_topic t.job ht.index
  rw [consumeQueued, hread]
  exact consume_run ht.value hf

theorem consumeEach_run {ts : List Target} (h : ∀ t ∈ ts, t.IsOpen r) {s : RunState σ}
    (hf : s.engine.failing = false) :
    JobQueue.consumeEach (fun q s => (consumeQueued r d q).run s) (ts.map (·.job.queued)) s =
      (ts.map fun t => (t.job.queued, .ok), (calls s.engine ts).foldl (afterCall d) s) := by
  -- By induction on the values: a scan leaves the engine as it is but for its count.
  induction ts generalizing s with
  | nil => rfl
  | cons t ts ih =>
    obtain ⟨ht, hts⟩ := List.forall_mem_cons.mp h
    rw [List.map_cons, JobQueue.consumeEach, consumeQueued_run ht hf]
    have hworks : (afterCall d s (s.engine.resultFor t.bytes, t.subject)).engine.failing = false := hf
    dsimp only
    rw [ih hts hworks]
    rfl

/-- A run of all waiting jobs, when each of them leads to its value and the engine works: no job
fails, none is left, and the dispatcher is called for each value in order. -/
theorem runPending_run {ts : List Target} (h : ∀ t ∈ ts, t.IsOpen r) {q : JobQueue}
    (hq : q.jobs = ts.map (·.job.queued)) {s : RunState σ} (hf : s.engine.failing = false) :
    runPending r d q s =
      (ts.map fun t => (t.job.queued, .ok), { q with jobs := [] },
        (calls s.engine ts).foldl (afterCall d) s) := by
  have hbelow : ∀ j ∈ q.jobs, isBelow scanTopicRoot j.topic = true := by
    rw [hq]
    intro j hj
    obtain ⟨t, -, rfl⟩ := List.mem_map.mp hj
    exact t.job.isBelow_topic
  have htaken : q.takeBelow scanTopicRoot = (ts.map (·.job.queued), { q with jobs := [] }) := by
    rw [JobQueue.takeBelow, List.filter_eq_self.mpr hbelow, hq]
    congr 2
    refine List.filter_eq_nil_iff.mpr fun j hj => ?_
    rw [hbelow j (hq ▸ hj)]
    decide
  rw [runPending, JobQueue.runPending, htaken]
  dsimp only
  rw [consumeEach_run h hf]

theorem forall₂_calls {e : Engine} (he : e.errorStatus = none) (ts : List Target) :
    List.Forall₂ (fun call t => call.2 = t.subject ∧ Engine.Judges e.signatures t.bytes call.1)
      (calls e ts) ts := by
  induction ts generalizing e with
  | nil => exact .nil
  | cons t ts ih => exact .cons ⟨rfl, Engine.judges_resultFor he t.bytes⟩ (@ih e.afterScan he)

theorem sinks_foldl_afterCall (cs : List (ScanResult × Subject)) (s : RunState σ) :
    (cs.foldl (afterCall d) s).sinks =
      cs.foldl (fun sinks call => ((d.dispatch call.1 call.2).run sinks).2) s.sinks := by
  induction cs generalizing s with
  | nil => rfl
  | cons c cs ih => exact ih _

theorem scans_foldl_afterCall (cs : List (ScanResult × Subject)) (s : RunState σ) :
    (cs.foldl (afterCall d) s).engine.scans = s.engine.scans + cs.length := by
  induction cs generalizing s with
  | nil => rfl
  | cons c cs ih =>
    rw [List.foldl_cons, ih, List.length_cons, ← Nat.add_assoc, Nat.add_right_comm]
    rfl

end Runner

end Sentinel
