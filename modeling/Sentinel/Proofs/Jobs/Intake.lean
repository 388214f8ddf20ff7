import Sentinel.Dig.Crew
import Sentinel.Proofs.Content.Reachable
import Sentinel.Proofs.Jobs.Custody
import Sentinel.Proofs.Running
/-!
# What diggers hand in

A digger adds nothing to a queue but jobs that the runner accepts and reads back as they were, as long as
the values of every property are counted by a machine word.

1. `Files.bind`, `files_submit`: the steps of a dig, one by one.
2. `files_tree`: a dig of a tree, whatever fails on the way.
3. `files_runTask`, `gains_run`: the work on a notification, and workers in any order.
4. `run_keeps_jobs`: the way of every job, from its submission to its consumption.
-/

namespace Sentinel

/-- The runner accepts the job from a queue, and reads it back. -/
structure ScanJob.IsReadable (j : ScanJob) : Prop where
  accepted : isBelow scanTopicRoot j.queued.topic = true
  decoded : ScanJob.ofTopic? j.queued.topic j.queued.attributes = .ok j

/-- A property whose values a machine word can count. -/
def ContentProperty.IsCounted (p : ContentProperty) : Prop := p.count < UInt64.size

/-- A node whose properties, and those of all nodes below it, have values that a machine word can
count. -/
def ContentNode.IsCounted (n : ContentNode) : Prop :=
  ∀ m ∈ n.preorder, ∀ ps, m.properties = .ok ps → ∀ p ∈ ps, p.IsCounted

/-- A queue to which nothing was added but jobs that the runner can read. -/
def JobQueue.Gains (q q' : JobQueue) : Prop :=
  ∃ jobs : List ScanJob, q'.jobs = q.jobs ++ jobs.map ScanJob.queued ∧ ∀ j ∈ jobs, j.IsReadable

namespace JobQueue.Gains

variable {q q' q'' : JobQueue}

theorem refl (q : JobQueue) : q.Gains q := ⟨[], (List.append_nil _).symm, nofun⟩

theorem trans (h : q.Gains q') (h' : q'.Gains q'') : q.Gains q'' := by
  obtain ⟨js, hjs, hread⟩ := h
  obtain ⟨ks, hks, hread'⟩ := h'
  refine ⟨js ++ ks, ?_, ?_⟩
  · rw [hks, hjs, List.append_assoc, List.map_append]
  · intro j hj
    rcases List.mem_append.mp hj with hj | hj
    · exact hread j hj
    · exact hread' j hj

end JobQueue.Gains

/-- The jobs for the values of a counted property can be read. -/
theorem ContentProperty.IsCounted.isReadable {p : ContentProperty} (h : p.IsCounted)
    {place : Option Nat × Nat} (hplace : place ∈ p.places) (userId : Option String) :
    ScanJob.IsReadable ⟨p.path, place.1, userId, p.propertyType⟩ := by
  refine ⟨ScanJob.isBelow_topic _, ScanJob.ofTopic?_topic _ ?_⟩
  intro i hi
  rw [places] at hplace
  rw [IsCounted, count] at h
  split at hplace
  · rw [List.mem_singleton.mp hplace] at hi
    cases hi
  · next lengths hlengths =>
    obtain ⟨⟨length, k⟩, hk, rfl⟩ := List.mem_map.mp hplace
    obtain rfl : k = i := Option.some.inj hi
    have hlt : k < lengths.length := (List.getElem?_eq_some_iff.mp (List.mem_zipIdx_iff_getElem?.mp hk)).1
    rw [hlengths] at h
    exact Nat.lt_trans hlt h

/-- A step that adds nothing to the queue but jobs that the runner can read. -/
def Files {α : Type} (x : StateM DigState α) : Prop :=
  ∀ s : DigState, s.queue.Gains (x.run s).2.queue

namespace Files

variable {α β : Type} {x : StateM DigState α} {f : α → StateM DigState β}

theorem ofPure (a : α) : Files (pure a : StateM DigState α) := fun s => .refl s.queue

theorem bind (hx : Files x) (hf : ∀ a, Files (f a)) : Files (x >>= f) :=
  fun s => (hx s).trans (hf (x.run s).1 (x.run s).2)

/-- A step that may fail files what it has submitted by then. -/
theorem bindError {y : Digs α} {g : α → Digs β} (hy : Files y.run) (hg : ∀ a, Files (g a).run) :
    Files (y >>= g).run := by
  rw [ExceptT.run_bind]
  refine hy.bind fun result => ?_
  cases result with
  | ok a => exact hg a
  | error e => exact ofPure _

end Files

namespace Dig

variable {scope : DigScope} {bound : Option Nat}

theorem files_throw {α : Type} (e : DispatchError) : Files (throw e : Digs α).run := Files.ofPure _

theorem files_record (e : AuditEvent) : Files (record e).run := fun s => .refl s.queue

theorem files_count (f : DigSummary → DigSummary) : Files (count f).run := fun s => .refl s.queue

theorem files_submit {j : ScanJob} (h : j.IsReadable) : Files (submit j).run := by
  intro s
  cases hr : s.queue.rejecting with
  | true =>
    have hreports : Reports false (submit j) _ := reports_submit j
    show s.queue.Gains ((submit j).run.run s).2.queue
    rw [hreports s hr]
    exact ⟨[], rfl, nofun⟩
  | false =>
    have hreports : Reports true (submit j) _ := reports_submit j
    show s.queue.Gains ((submit j).run.run s).2.queue
    rw [hreports s hr]
    exact ⟨[j], rfl, List.forall_mem_singleton.mpr h⟩

theorem files_emitPlaces {p : ContentProperty} (h : p.IsCounted) (limit : Int) (userId : Option String)
    {places : List (Option Nat × Nat)} (hplaces : ∀ place ∈ places, place ∈ p.places) :
    Files (emitPlaces p limit userId places).run := by
  induction places with
  | nil => exact Files.ofPure _
  | cons place places ih =>
    obtain ⟨hplace, hrest⟩ := List.forall_mem_cons.mp hplaces
    refine Files.bindError ?_ fun _ => ih hrest
    show Files (emitValue p limit userId place.1 place.2).run
    rw [emitValue]
    split
    · exact files_submit (h.isReadable hplace userId)
    · exact (files_record _).bindError fun _ => files_count _

theorem files_emit {p : ContentProperty} (h : p.IsCounted) (limit : Int) (userId : Option String) :
    Files (emit p limit userId).run := files_emitPlaces h limit userId fun _ hp => hp

theorem files_emitProperties {ps : List ContentProperty} (h : ∀ p ∈ ps, p.IsCounted) :
    Files (emitProperties scope ps).run := by
  induction ps with
  | nil => exact Files.ofPure _
  | cons p ps ih =>
    obtain ⟨hp, hps⟩ := List.forall_mem_cons.mp h
    rw [emitProperties]
    split
    · exact (files_emit hp scope.maxLength none).bindError fun _ => ih hps
    · exact ih hps

theorem files_visit {n : ContentNode} (h : ∀ ps, n.properties = .ok ps → ∀ p ∈ ps, p.IsCounted) :
    Files (visit scope n).run := by
  refine (files_count _).bindError fun _ => ?_
  cases hp : n.properties with
  | error e => exact files_throw _
  | ok ps => exact files_emitProperties (h ps hp)

mutual

theorem files_walk (n : ContentNode) (h : n.IsCounted) : Files (walk scope bound n).run := by
  match n with
  | .mk path depth properties children =>
    rw [walk]
    have hself := h _ List.mem_cons_self
    refine (files_visit hself).bindError fun _ => ?_
    split
    · exact files_walkBelow children fun m hm => h m (List.mem_cons_of_mem _ hm)
    · exact Files.ofPure _

theorem files_walkBelow (children : Except RepositoryError (List ContentNode))
    (h : ∀ m ∈ ContentNode.preorderBelow children, ∀ ps, m.properties = .ok ps →
      ∀ p ∈ ps, p.IsCounted) :
    Files (walkBelow scope bound children).run := by
  match children with
  | .error e =>
    rw [walkBelow]
    exact files_throw _
  | .ok nodes =>
    rw [walkBelow]
    exact files_walkAll nodes h

theorem files_walkAll (ns : List ContentNode)
    (h : ∀ m ∈ ContentNode.preorderAll ns, ∀ ps, m.properties = .ok ps → ∀ p ∈ ps, p.IsCounted) :
    Files (walkAll scope bound ns).run := by
  match ns with
  | [] =>
    rw [walkAll]
    exact Files.ofPure _
  | n :: ns =>
    rw [walkAll]
    exact (files_walk n fun m hm => h m (List.mem_append_left _ hm)).bindError fun _ =>
      files_walkAll ns fun m hm => h m (List.mem_append_right _ hm)

end

theorem files_tree {root : ContentNode} (h : root.IsCounted) : Files (tree root scope).run := by
  rw [tree]
  cases checkScope scope with
  | error e => exact files_throw _
  | ok u =>
    refine Files.bindError (fun s => .refl s.queue) fun _ => ?_
    rw [walkStack_root]
    exact (files_walk root h).bindError fun _ s => .refl s.queue

end Dig

theorem Repository.mem_of_stored? {r : Repository} {path : String} {s : StoredProperty}
    (h : r.stored? path = .ok s) :
    ∃ node m name, r.nodes.get? node = some m ∧ (name, s) ∈ m.entries := by
  obtain ⟨-, -, h⟩ := bind_eq_ok.mp h
  split at h
  · cases h
  · next node name hsplit =>
    obtain ⟨-, -, h⟩ := bind_eq_ok.mp h
    split at h
    · cases h
    · next t ht =>
      obtain rfl := Except.ok.inj h
      obtain ⟨m, hm, hname⟩ := Option.bind_eq_some_iff.mp ht
      exact ⟨node, m, name, hm, (KeyMap.get?_eq_some_iff m).mp hname⟩

namespace ChangeDigger

variable {settings : ChangeDigSettings} {session : Session} {userId : Option String} {r : Repository}

theorem isCounted_of_property? (h : session.repository.IsSound) {path : String} {p : ContentProperty}
    (hp : session.property? path = .ok p) : p.IsCounted := by
  obtain ⟨s, hs, hdescribe⟩ := bind_eq_ok.mp hp
  obtain rfl : s.describe path = p := Except.ok.inj hdescribe
  obtain ⟨node, m, name, hm, hmem⟩ := Repository.mem_of_stored? hs
  have hcount : s.values.length < UInt64.size := (h.properties node m hm (name, s) hmem).2
  rw [ContentProperty.IsCounted, StoredProperty.describe, ContentProperty.count]
  cases s.multiple with
  | true => simpa using hcount
  | false => exact (by decide : 1 < UInt64.size)

theorem files_digCandidate (h : session.repository.IsSound) (path : String) :
    Files (digCandidate settings session userId path) := by
  rw [digCandidate]
  cases hp : session.property? path with
  | error e => exact Files.ofPure _
  | ok p =>
    dsimp only
    split
    · refine Files.bind (fun s => .refl s.queue) fun _ => ?_
      exact (Dig.files_emit (isCounted_of_property? h hp) settings.maxLength userId).bind fun _ =>
        Files.ofPure _
    · exact Files.ofPure _

theorem files_digCandidates (h : session.repository.IsSound) (paths : List String) :
    Files (digCandidates settings session userId paths) := by
  induction paths with
  | nil => exact Files.ofPure _
  | cons path paths ih => exact (files_digCandidate h path).bind fun _ => ih

theorem eq_of_openOn (h : Session.openOn r = .ok session) : session = ⟨r⟩ := by
  rw [Session.openOn] at h
  split at h
  · exact (Except.ok.inj h).symm
  · cases h

theorem files_runTask (h : r.IsSound) (task : DigTask) : Files (runTask settings r task) := by
  refine Files.bind (fun s => .refl s.queue) fun _ => ?_
  cases hs : Session.openOn r with
  | error e => exact fun s => .refl s.queue
  | ok session =>
    obtain rfl := eq_of_openOn hs
    exact (files_digCandidates h task.candidates).bind fun _ s => .refl s.queue

end ChangeDigger

namespace Crew

variable {r : Repository} {c : Crew}

/-- Every worker that is busy has a session of a repository that is sound. -/
def IsSound (c : Crew) : Prop := ∀ e, some e ∈ c.workers → e.session.repository.IsSound

theorem isSound_start (settings : ChangeDigSettings) (pattern : PathPattern) (queue : JobQueue)
    (trail : Trail) : (start settings pattern queue trail).IsSound :=
  fun _ he => nomatch List.eq_of_mem_replicate he

theorem IsSound.assign (h : c.IsSound) (worker : Nat) {e : Option Errand}
    (he : ∀ f ∈ e, f.session.repository.IsSound) : (c.assign worker e).IsSound := by
  intro f hf
  rcases List.mem_or_eq_of_mem_set hf with hf | hf
  · exact h f hf
  · exact he f hf.symm

theorem gains_work (hr : r.IsSound) (h : c.IsSound) (worker : Nat) :
    (c.work r worker).IsSound ∧ c.queue.Gains (c.work r worker).queue := by
  rw [work]
  cases hw : c.workers[worker]? with
  | none => exact ⟨h, .refl _⟩
  | some errand =>
    cases errand with
    | none =>
      dsimp only
      rw [take]
      cases c.digger.waiting with
      | nil => exact ⟨h, .refl _⟩
      | cons task waiting =>
        dsimp only
        cases hs : Session.openOn r with
        | error e => exact ⟨h, .refl _⟩
        | ok session =>
          have hsession : session = ⟨r⟩ := ChangeDigger.eq_of_openOn hs
          refine ⟨IsSound.assign h worker fun f hf => ?_, .refl _⟩
          obtain rfl := Option.some.inj hf
          rw [hsession]
          exact hr
    | some e =>
      have he : e.session.repository.IsSound := h e (List.mem_of_getElem? hw)
      dsimp only
      rw [resolve]
      cases e.candidates with
      | nil => exact ⟨IsSound.assign h worker nofun, .refl _⟩
      | cons path candidates =>
        refine ⟨IsSound.assign h worker fun f hf => ?_,
          ChangeDigger.files_digCandidate he path ⟨c.queue, c.trail, e.summary⟩⟩
        obtain rfl := Option.some.inj hf
        exact he

/-- Workers who take turns in any order, while notifications come in. -/
theorem gains_run (hr : r.IsSound) (h : c.IsSound) (turns : List Turn) :
    c.queue.Gains (run r turns c).2.queue := by
  induction turns generalizing c with
  | nil => exact .refl _
  | cons turn turns ih =>
    cases turn with
    | notify n =>
      rw [run]
      have hnotify : (c.notify n).2.IsSound ∧ (c.notify n).2.queue = c.queue := by
        rw [notify]
        cases c.digger.receive n with
        | error e => exact ⟨h, rfl⟩
        | ok answer => exact ⟨h, rfl⟩
      have hrest := ih hnotify.1
      rw [hnotify.2] at hrest
      exact hrest
    | work worker =>
      obtain ⟨hsound, hgains⟩ := gains_work hr h worker
      exact hgains.trans (ih hsound)

end Crew

namespace Depot

variable {σ : Type}

/-- The way of every job. In every run of a queue, with consumers that work on their jobs while others
are submitted, handed over and taken out:

each accepted job is in one place, and the jobs of a place are in the order of their submission; as many
were accepted as wait, were handed to consumers and were taken out; a job that is refused changes nothing;
a run of the waiting jobs hands over those whose topic goes on from the root behind a slash, each once and
in order, whatever becomes of them, and leaves the others; and whatever a digger submits, the runner
accepts and reads back. -/
theorem run_keeps_jobs (ops : List (DepotOperation σ)) (s : σ) {root : ContentNode}
    (hroot : root.IsCounted) {r : Repository} (hr : r.Reachable) :
    let d := run ops s
    let book := JobBook.of ops
    let accepted := JobBook.accepted false ops
    (book.entries.map (·.1) = accepted ∧ d.queue.jobs = book.jobsAt .waiting ∧
        d.batches.map (·.jobs) = (List.range book.batches).map (fun i => book.jobsAt (.handed i)) ∧
        d.takings = (List.range book.takings).map (fun i => book.jobsAt (.taken i)) ∧
        ∀ e ∈ book.entries, book.Knows e.2) ∧
      (d.queue.submitted = accepted.length ∧
        d.queue.submitted = d.queue.jobs.length + (d.batches.map (·.jobs.length)).sum +
          (d.takings.map List.length).sum) ∧
      (d.queue.rejecting = true → ∀ topic attributes,
        d.queue.submit topic attributes =
            .error (.jobSubmission topic "queue is not accepting jobs") ∧
          d.step (.submit topic attributes) = d) ∧
      (∀ c : JobConsumer σ,
        let jobs := d.queue.jobs.filter fun j => isBelow c.root j.topic
        let ran := d.queue.runPending c.root c.consume d.state
        (∀ topic, isBelow c.root topic = true ↔
            ∃ rest, topic.toList = c.root.toList ++ '/' :: rest) ∧
          (∀ i, ran.1[i]? = jobs[i]?.map fun j =>
            (j, (c.consume j (JobQueue.stateAfter c.consume (jobs.take i) d.state)).1)) ∧
          ran.2.1 =
            { d.queue with jobs := d.queue.jobs.filter fun j => !isBelow c.root j.topic } ∧
          ran.2.2 = JobQueue.stateAfter c.consume jobs d.state ∧
          run (ops ++ .hand c :: List.replicate jobs.length (.consume d.batches.length)) s =
            ⟨ran.2.1, d.batches ++ [⟨c, ran.1, []⟩], d.takings, ran.2.2⟩) ∧
      (∀ scope (start : DigState),
        start.queue.Gains ((Dig.tree root scope).run.run start).2.queue) ∧
      (∀ settings task (start : DigState),
        start.queue.Gains ((ChangeDigger.runTask settings r task).run start).2.queue) ∧
      (∀ settings pattern (queue : JobQueue) trail turns,
        queue.Gains (Crew.run r turns (Crew.start settings pattern queue trail)).2.queue) ∧
      (∀ (j : ScanJob) (dispatcher : Dispatcher σ), j.IsReadable →
        Runner.consumeQueued r dispatcher j.queued = Runner.consume r dispatcher j) := by
  intro d book accepted
  have hkeeps : d.Keeps book := keeps_run ops s
  have hsound := Repository.isSound_of_reachable hr
  have haccepted : book.entries.map (·.1) = accepted := JobBook.fst_foldl_enter ops .empty
  refine ⟨⟨haccepted, hkeeps.waiting, hkeeps.handed, hkeeps.taken, hkeeps.known⟩, ⟨?_, hkeeps.balance⟩,
    ?_, ?_, fun scope start => Dig.files_tree hroot start,
    fun settings task start => ChangeDigger.files_runTask hsound task start,
    fun settings pattern queue trail turns =>
      Crew.gains_run hsound (Crew.isSound_start settings pattern queue trail) turns, ?_⟩
  · rw [hkeeps.submitted, ← haccepted, List.length_map]
  · intro hrejecting topic attributes
    have hrefused := JobQueue.submit_of_rejecting hrejecting topic attributes
    exact ⟨hrefused, by rw [step, hrefused]⟩
  · intro c jobs ran
    exact ⟨fun topic => isBelow_iff, JobQueue.consumeEach_eq jobs d.state, rfl,
      JobQueue.consumeEach_snd jobs d.state, run_hand ops c s⟩
  · intro j dispatcher hj
    rw [Runner.consumeQueued, hj.decoded]

/-- A consumer of binary values that fails for every job and counts them. -/
def failingConsumer : JobConsumer Nat := ⟨"scan", fun _ n => (.failed, n + 1)⟩

/-- Three jobs, of which one has a topic that goes on from the root without a slash, and one that is
refused; the consumer is handed two of them, and works on one before all others are taken out. -/
def mixedOperations : List (DepotOperation Nat) :=
  [.submit "scan/Binary" .empty, .submit "scanner/Binary" .empty, .setRejecting true,
    .submit "scan/Name" .empty, .setRejecting false, .submit "scan/String" .empty,
    .hand failingConsumer, .consume 0, .takeAll, .setRejecting true]

/-- The refused job is nowhere, the failed one and the one behind it are with the consumer, and the one
with another topic was taken out. -/
theorem run_keeps_jobs_mixed :
    let d := run mixedOperations 0
    d.queue.submitted = 3 ∧ d.queue.jobs.map (·.topic) = [] ∧
      d.batches.map (·.jobs.map (·.topic)) = [["scan/Binary", "scan/String"]] ∧
      d.takings.map (·.map (·.topic)) = [["scanner/Binary"]] ∧
      d.step (.submit "scan/Name" .empty) = d ∧
      ∃ jobs : List ScanJob,
        ((Dig.tree (.mk "/" 0 (.ok [⟨"/data", .binary, .multiple [1, 2]⟩]) (.ok []))
          (.binaries 0)).run.run ⟨.empty, [], {}⟩).2.queue.jobs = jobs.map ScanJob.queued ∧
        ∀ j ∈ jobs, j.IsReadable := by
  intro d
  have hroot : (ContentNode.mk "/" 0 (.ok [⟨"/data", .binary, .multiple [1, 2]⟩]) (.ok [])).IsCounted := by
    intro m hm ps hps p hp
    obtain rfl := List.mem_singleton.mp hm
    obtain rfl := Except.ok.inj hps
    rw [List.mem_singleton.mp hp]
    exact (by decide : 2 < UInt64.size)
  obtain ⟨⟨-, hwaiting, hhanded, htaken, -⟩, ⟨hsubmitted, -⟩, hrefused, -, htree, -⟩ :=
    run_keeps_jobs mixedOperations 0 hroot Repository.Reachable.empty
  obtain ⟨jobs, hjobs, hread⟩ := htree (.binaries 0) ⟨.empty, [], {}⟩
  refine ⟨hsubmitted, ?_, ?_, ?_, (hrefused rfl _ _).2, jobs, hjobs, hread⟩
  · show (run mixedOperations 0).queue.jobs.map _ = _
    rw [hwaiting]
    rfl
  · have htopics := congrArg (List.map (List.map (·.topic))) hhanded
    rw [List.map_map] at htopics
    exact htopics
  · show (run mixedOperations 0).takings.map _ = _
    rw [htaken]
    rfl

end Depot

end Sentinel
