import Sentinel.Proofs.Streaming.Feed
import Sentinel.Proofs.Streaming.Place
/-!
# Streams that are read

A stream is opened on a service that may have any other clients. From then on there are operations on
the service, and the next frame of the stream is read, in any order.

1. `Flows.step`, `Flows.poll`: while its client is registered, a stream gives the oldest frame that it
   has not given yet, and says that there is none only if there is none.
2. `Flows.run`: nothing is lost and nothing changes its place in any row of operations.
3. `Ends.step`, `Ends.poll`, `Ends.answers_run`: without its client, a stream gives what its channel
   still holds, and then it has ended for good.
4. `isProper_of_reachable`: in no state that a service comes to do two clients share a number.
5. `run_never_stalls`: a stream from its opening to its end.
-/

namespace Sentinel

/-- What happens while there is a stream: an operation on the service, or the next frame is read. -/
inductive StreamOperation where
  | service (op : ServiceOperation)
  | poll
deriving DecidableEq, Repr

/-- The operation on the service, if it is one. -/
def StreamOperation.service? : StreamOperation → Option ServiceOperation
  | service op => some op
  | poll => none

/-- The events that are broadcast. -/
def StreamOperation.events (ops : List StreamOperation) : List StreamEvent :=
  broadcasts (ops.filterMap service?)

def Poll.frames (answers : List Poll) : List String :=
  answers.filterMap fun
    | .frame text => some text
    | _ => none

/-- The answers to so many polls when these frames are left in a channel and none comes any more. -/
def Poll.finale (frames : List String) (polls : Nat) : List Poll :=
  (frames.map Poll.frame ++ List.replicate polls Poll.ended).take polls

theorem Poll.finale_succ (frames : List String) (polls : Nat) :
    finale frames (polls + 1) =
      (frames.head?.elim .ended .frame) :: finale frames.tail polls := by
  cases frames with
  | nil => simp [finale, List.replicate_succ]
  | cons frame frames =>
    have hreplicate : List.replicate (polls + 1) Poll.ended =
        List.replicate polls .ended ++ [.ended] := List.replicate_succ'
    have hlength : polls ≤ (frames.map Poll.frame ++ List.replicate polls Poll.ended).length := by
      simp
    rw [finale, hreplicate, List.map_cons, List.cons_append, List.take_succ_cons, ← List.append_assoc,
      List.take_append_of_le_length hlength]
    rfl

/-- What comes of a row of operations around a stream. -/
structure StreamRun where
  answers : List Poll
  stream : EventStream
  service : Live

namespace EventStream

/-- What comes of a row of operations, one after the other. -/
def run : List StreamOperation → EventStream → Live → StreamRun
  | [], s, l => ⟨[], s, l⟩
  | .service op :: ops, s, l => run ops s (l.step op)
  | .poll :: ops, s, l =>
    let (answer, s, l) := s.poll l
    let ran := run ops s l
    { ran with answers := answer :: ran.answers }

/-- The client of a stream is registered, and these frames wait for it. -/
structure Flows (s : EventStream) (l : Live) (capacity : Nat) (frames : List String)
    (closings : List (ClosedReason × Nat)) : Prop where
  unfinished : s.done = false
  room : 0 < capacity
  owns : l.Owns s.client s.transport
  fed : (l.place s.client s.transport).IsFed capacity frames closings

/-- A stream is done, or its client is gone and these frames are left in its channel. -/
def Ends (s : EventStream) (l : Live) (frames : List String) : Prop :=
  s.done = true ∧ frames = [] ∨
    s.done = false ∧ l.Owns s.client s.transport ∧ (l.place s.client s.transport).IsOver frames

variable {s : EventStream} {l : Live} {capacity : Nat} {frames : List String}
  {closings : List (ClosedReason × Nat)} {ch : Channel}

theorem get_of_place (h : (l.place s.client s.transport).transport? = some (.channel ch)) :
    l.connections.get s.transport = .channel ch := by
  have htransport : l.connections.transports[s.transport]? = some (.channel ch) := h
  rw [Connections.get, htransport, Option.getD_some]

theorem poll_of_cons {frame : String} {rest : List String} (hdone : s.done = false)
    (howns : l.Owns s.client s.transport)
    (htransport : (l.place s.client s.transport).transport? = some (.channel ch))
    (hbuffer : ch.buffer = frame :: rest) :
    ∃ l', s.poll l = (.frame frame, s, l') ∧ l'.Owns s.client s.transport ∧
      l'.place s.client s.transport = ((l.place s.client s.transport).modify
        fun _ => .channel { ch with buffer := rest }).onWritable := by
  let read (_ : Transport) : Transport := .channel { ch with buffer := rest }
  let taken : Live := { l with connections := l.connections.modify s.transport read }
  have hread : Live.Acts s.client s.transport (Seat.modify read) l taken :=
    Live.acts_modify l s.client s.transport read
  have htaken : taken.Owns s.client s.transport := howns.keeps hread.toKeeps
  obtain ⟨hkeeps, hplace⟩ :=
    htaken.single fun t (ht : taken.Sits s.client t) => Live.acts_onWritable ht
  refine ⟨_, ?_, htaken.keeps hkeeps, ?_⟩
  · rw [poll, hdone, get_of_place htransport]
    dsimp only
    rw [Channel.receive_of_cons hbuffer]
    rfl
  · rw [hplace, if_pos rfl, hread.place _ _ (iff_of_true rfl rfl), if_pos rfl]

theorem Flows.step {op : ServiceOperation} (h : s.Flows l capacity frames closings)
    (hop : op.Spares s.client) :
    s.Flows (l.step op) capacity (frames ++ (broadcasts [op]).map StreamEvent.wire) closings := by
  obtain ⟨c, ch, hfeeds, -⟩ := h.fed
  obtain ⟨howns, hplace⟩ := Live.place_step h.owns hfeeds.transport op
  refine ⟨h.unfinished, h.room, howns, ?_⟩
  rw [hplace]
  exact h.fed.step hop

/-- The answer to a poll is the oldest of the frames that wait. -/
theorem Flows.poll (h : s.Flows l capacity frames closings) :
    ∃ l', s.poll l = (frames.head?.elim .pending .frame, s, l') ∧
      s.Flows l' capacity frames.tail closings := by
  obtain ⟨c, ch, hfeeds, rfl, hclosings⟩ := h.fed
  cases hbuffer : ch.buffer with
  | nil =>
    -- A channel that takes at least one frame is not full when it is empty.
    have hqueue : c.queue = [] := by
      by_contra hqueue
      have hfull := hfeeds.full hqueue
      rw [hbuffer, List.length_nil] at hfull
      exact Nat.ne_of_lt h.room hfull
    refine ⟨l, ?_, h.unfinished, h.room, h.owns, c, ch, hfeeds, ?_, hclosings⟩
    · rw [EventStream.poll, h.unfinished, get_of_place hfeeds.transport]
      dsimp only
      rw [Channel.receive_of_nil hbuffer, hfeeds.sender, hfeeds.receiver, hqueue]
      rfl
    · rw [hbuffer, hqueue]
      rfl
  | cons frame rest =>
    obtain ⟨l', hpoll, howns, hplace⟩ := poll_of_cons h.unfinished h.owns hfeeds.transport hbuffer
    refine ⟨l', hpoll, h.unfinished, h.room, howns, ?_⟩
    rw [hplace, ← hclosings]
    exact hfeeds.receive hbuffer

theorem Flows.eq_nil_of_pending (h : s.Flows l capacity frames closings)
    (hpending : (s.poll l).1 = .pending) : frames = [] := by
  obtain ⟨l', hpoll, -⟩ := h.poll
  rw [hpoll] at hpending
  cases frames with
  | nil => rfl
  | cons frame frames => cases hpending

theorem Flows.poll_ne_ended (h : s.Flows l capacity frames closings) : (s.poll l).1 ≠ .ended := by
  obtain ⟨l', hpoll, -⟩ := h.poll
  rw [hpoll]
  cases frames with
  | nil => exact nofun
  | cons frame frames => exact nofun

/-- What was given and what waits is what waited and what was broadcast since, in order. -/
theorem Flows.run (h : s.Flows l capacity frames closings) {ops : List StreamOperation}
    (hops : ∀ op, .service op ∈ ops → op.Spares s.client) :
    (s.run ops l).stream = s ∧ ∃ waiting, s.Flows (s.run ops l).service capacity waiting closings ∧
      Poll.frames (s.run ops l).answers ++ waiting =
        frames ++ (StreamOperation.events ops).map StreamEvent.wire := by
  induction ops generalizing l frames with
  | nil => exact ⟨rfl, frames, h, (List.append_nil frames).symm⟩
  | cons op ops ih =>
    have hrest : ∀ op, .service op ∈ ops → op.Spares s.client :=
      fun op hop => hops op (List.mem_cons_of_mem _ hop)
    cases op with
    | service op =>
      obtain ⟨hstream, waiting, hflows, hframes⟩ := ih (h.step (hops op List.mem_cons_self)) hrest
      have hevents : StreamOperation.events (.service op :: ops) =
          broadcasts [op] ++ StreamOperation.events ops :=
        broadcasts_cons op (ops.filterMap StreamOperation.service?)
      refine ⟨hstream, waiting, hflows, ?_⟩
      rw [hevents, List.map_append, ← List.append_assoc]
      exact hframes
    | poll =>
      obtain ⟨l', hpoll, hflows'⟩ := h.poll
      obtain ⟨hstream, waiting, hflows, hframes⟩ := ih hflows' hrest
      have hrun : s.run (.poll :: ops) l =
          { s.run ops l' with
            answers := frames.head?.elim .pending .frame :: (s.run ops l').answers } := by
        rw [EventStream.run, hpoll]
      rw [hrun]
      refine ⟨hstream, waiting, hflows, ?_⟩
      cases frames with
      | nil => exact hframes
      | cons frame frames => exact congrArg (frame :: ·) hframes

theorem Ends.step (h : s.Ends l frames) (op : ServiceOperation) : s.Ends (l.step op) frames := by
  rcases h with hdone | ⟨hdone, howns, hover⟩
  · exact .inl hdone
  · obtain ⟨ch, htransport, -⟩ := hover.2
    obtain ⟨howns', hplace⟩ := Live.place_step howns htransport op
    refine .inr ⟨hdone, howns', ?_⟩
    rw [hplace]
    exact hover.step op

/-- The answer to a poll is the oldest of the frames that are left; when there is none, the stream has
ended. -/
theorem Ends.poll (h : s.Ends l frames) :
    (s.poll l).1 = frames.head?.elim .ended .frame ∧
      (s.poll l).2.1.Ends (s.poll l).2.2 frames.tail := by
  rcases h with ⟨hdone, rfl⟩ | ⟨hdone, howns, hover⟩
  · have hpoll : s.poll l = (.ended, s, l) := by rw [EventStream.poll, if_pos hdone]
    rw [hpoll]
    exact ⟨rfl, .inl ⟨hdone, rfl⟩⟩
  · obtain ⟨ch, htransport, hsender, rfl⟩ := hover.2
    cases hbuffer : ch.buffer with
    | nil =>
      have hpoll : s.poll l = (.ended, s.close l) := by
        rw [EventStream.poll, hdone, get_of_place htransport]
        dsimp only
        rw [Channel.receive_of_nil hbuffer, hsender]
        rfl
      rw [hpoll]
      refine ⟨rfl, .inl ⟨?_, rfl⟩⟩
      rw [close, hdone]
      rfl
    | cons frame rest =>
      obtain ⟨l', hpoll, howns', hplace⟩ := poll_of_cons hdone howns htransport hbuffer
      rw [hpoll]
      refine ⟨rfl, .inr ⟨hdone, howns', ?_⟩⟩
      rw [hplace]
      rw [hbuffer] at hover
      exact hover.receive htransport

/-- All answers from the end of the client on, whatever else happens. -/
theorem Ends.answers_run (h : s.Ends l frames) (ops : List StreamOperation) :
    (s.run ops l).answers = Poll.finale frames (ops.count .poll) := by
  induction ops generalizing s l frames with
  | nil => rfl
  | cons op ops ih =>
    cases op with
    | service op =>
      rw [run, ih (h.step op), List.count_cons_of_ne (by simp)]
    | poll =>
      obtain ⟨hanswer, hends⟩ := h.poll
      rw [run, List.count_cons_self, Poll.finale_succ, ← hanswer, ← ih hends]

theorem ends_closeAll {c : Client} (h : s.Flows l capacity frames closings)
    (hfeeds : (l.place s.client s.transport).Feeds capacity c ch) : s.Ends l.closeAll ch.buffer := by
  obtain ⟨hkeeps, hplace⟩ := Live.place_closeAll h.owns.toAlone
  refine .inr ⟨h.unfinished, h.owns.keeps hkeeps, ?_⟩
  rw [hplace]
  exact hfeeds.shut

theorem ends_remove {c : Client} (h : s.Flows l capacity frames closings)
    (hfeeds : (l.place s.client s.transport).Feeds capacity c ch) (reason : ClosedReason) :
    s.Ends (l.remove s.client reason).2 ch.buffer := by
  obtain ⟨hkeeps, hplace⟩ :=
    h.owns.single fun t (ht : l.Sits s.client t) => Live.acts_remove ht reason
  refine .inr ⟨h.unfinished, h.owns.keeps hkeeps, ?_⟩
  rw [hplace, if_pos rfl]
  exact hfeeds.remove reason

theorem ends_close (s : EventStream) (l : Live) : (s.close l).1.Ends (s.close l).2 [] := by
  refine .inl ⟨?_, rfl⟩
  rw [close]
  split
  · assumption
  · rfl

theorem isProper_close (s : EventStream) (hl : l.IsProper) : (s.close l).2.IsProper := by
  rw [close]
  split
  · exact hl
  · exact (hl.modify s.transport _).single fun t ht => Live.acts_remove ht .completed

theorem isProper_poll (s : EventStream) (hl : l.IsProper) : (s.poll l).2.2.IsProper := by
  rw [poll]
  split
  · exact hl
  · split
    · exact hl
    · next ch _ =>
      generalize ch.receive = received
      obtain ⟨answer, ch'⟩ := received
      cases answer with
      | frame text => exact (hl.modify s.transport _).single fun t ht => Live.acts_onWritable ht
      | ended => exact isProper_close s hl
      | pending => exact hl

/-- A state that a service comes to: there are operations on it in any order, and streams are opened,
read and closed. -/
inductive Reachable : Live → Prop
  | empty : Reachable .empty
  | step {l : Live} (op : ServiceOperation) : Reachable l → Reachable (l.step op)
  | opened {l l' : Live} {s : EventStream} {capacity : Nat} :
    Reachable l → openOn l capacity = some (s, l') → Reachable l'
  | polled {l : Live} (s : EventStream) : Reachable l → Reachable (s.poll l).2.2
  | closed {l : Live} (s : EventStream) : Reachable l → Reachable (s.close l).2

theorem isProper_of_reachable (h : Reachable l) : l.IsProper := by
  induction h with
  | empty => exact Live.isSound_empty.isProper
  | step op _ ih => exact Live.isProper_step ih op
  | @opened l l' s capacity _ hopen ih =>
    rw [openOn] at hopen
    split at hopen
    · cases hopen
    · obtain ⟨-, rfl⟩ := Prod.mk.inj (Option.some.inj hopen)
      exact Live.isProper_connect ih _
  | polled s _ ih => exact isProper_poll s ih
  | closed s _ ih => exact isProper_close s ih

theorem flows_openOn (hl : l.IsProper) (hcapacity : capacity ≤ maxFrames) :
    ∃ s l₀, openOn l capacity = some (s, l₀) ∧
      s.Flows l₀ (max 1 capacity) [] (l₀.place s.client s.transport).closings := by
  let ch : Channel := { capacity := max 1 capacity }
  let s : EventStream := ⟨l.connections.issued, l.connections.transports.length, false⟩
  have hopen : openOn l capacity = some (s, (l.connect (.channel ch)).2) := by
    rw [openOn, if_neg (Nat.not_lt_of_le hcapacity)]
    rfl
  have hplace := Live.place_connect_new hl (.channel ch)
  refine ⟨s, _, hopen, rfl, Nat.le_max_left 1 capacity, Live.owns_connect_new hl (.channel ch),
    ⟨s.client, s.transport, [], .opened⟩, ch, ?_, rfl, rfl⟩
  show ((l.connect (.channel ch)).2.place s.client s.transport).Feeds (max 1 capacity) _ ch
  rw [hplace]
  exact ⟨⟨rfl, rfl, rfl, rfl, Nat.zero_le _⟩, rfl, fun hqueue => absurd rfl hqueue⟩

/-- A stream never stalls and never loses a frame. It is opened with any number of frames that a channel
can be made for, on a service in any state that it comes to, and then there are operations on the
service, of which none takes the client of the stream away, and polls, in any order.

Its client is still registered, and the frames that were given, those in the channel and those that
wait in the client's queue are together the events that were broadcast since the opening, in order.
The channel holds no more than it was made for, and is full whenever the queue is not empty. The
next poll finds no frame only when every one has been given, and never the end. No write to the
channel is refused, and there is no word of the client's end in the audit trail.

When the client is then taken away, with all the others or by itself, the stream gives the frames that
are left in the channel, and no other ones, and then it has ended for good. When the stream itself is
closed, it has ended at once. -/
theorem run_never_stalls (hl : l.IsProper) (hcapacity : capacity ≤ maxFrames) :
    ∃ s l₀, openOn l capacity = some (s, l₀) ∧
      ∀ ops, (∀ op, .service op ∈ ops → op.Spares s.client) →
        let ran := s.run ops l₀
        let sent := (StreamOperation.events ops).map StreamEvent.wire
        ran.stream = s ∧ ran.service.IsProper ∧
        ∃ c ch, ran.service.registry.find? s.client = some c ∧
          ran.service.connections.get s.transport = .channel ch ∧
          Poll.frames ran.answers ++ ch.buffer ++ c.queue.map StreamEvent.wire = sent ∧
          ch.buffer.length ≤ max 1 capacity ∧
          (c.queue ≠ [] → ch.buffer.length = max 1 capacity) ∧
          ((s.poll ran.service).1 = .pending →
            Poll.frames ran.answers = sent ∧ ran.service.registry.pending? s.client = some 0) ∧
          (s.poll ran.service).1 ≠ .ended ∧
          (∀ q, (drainQueue (.channel ch) q).failure = none ∧
            (drainQueue (.channel ch.receive.2) q).failure = none) ∧
          ran.service.trail.filterMap (AuditEvent.closing? s.client) =
            l₀.trail.filterMap (AuditEvent.closing? s.client) ∧
          (∀ more, (s.run more ran.service.closeAll).answers =
            Poll.finale ch.buffer (more.count .poll)) ∧
          (∀ reason more, (s.run more (ran.service.remove s.client reason).2).answers =
            Poll.finale ch.buffer (more.count .poll)) ∧
          (∀ more, ((s.close ran.service).1.run more (s.close ran.service).2).answers =
            Poll.finale [] (more.count .poll)) := by
  obtain ⟨s, l₀, hopen, hstart⟩ := flows_openOn hl hcapacity
  refine ⟨s, l₀, hopen, fun ops hops => ?_⟩
  intro ran sent
  obtain ⟨hstream, waiting, hflows, hframes⟩ := hstart.run hops
  obtain ⟨c, ch, hfeeds, hwaiting, hclosings⟩ := hflows.fed
  rw [List.nil_append] at hframes
  refine ⟨hstream, hflows.owns.proper, c, ch, hfeeds.client, get_of_place hfeeds.transport, ?_,
    hfeeds.bound, hfeeds.full, ?_, hflows.poll_ne_ended, ?_, hclosings, ?_, ?_, ?_⟩
  · rw [List.append_assoc, hwaiting]
    exact hframes
  · intro hpending
    -- Only when no frame waits is the answer that there is none.
    have hnil : waiting = [] := hflows.eq_nil_of_pending hpending
    rw [hnil, List.append_nil] at hframes
    rw [hnil, List.append_eq_nil_iff, List.map_eq_nil_iff] at hwaiting
    refine ⟨hframes, ?_⟩
    have hclient : ran.service.registry.find? s.client = some c := hfeeds.client
    rw [Registry.pending?, hclient, Option.map_some, hwaiting.2]
    rfl
  · intro q
    obtain ⟨hsender, hreceiver⟩ := ch.receive_ends
    rw [drainQueue_channel q hfeeds.sender hfeeds.receiver,
      drainQueue_channel q (hsender.trans hfeeds.sender) (hreceiver.trans hfeeds.receiver)]
    exact ⟨rfl, rfl⟩
  · exact fun more => (ends_closeAll hflows hfeeds).answers_run more
  · exact fun reason more => (ends_remove hflows hfeeds reason).answers_run more
  · exact fun more => (ends_close s ran.service).answers_run more

/-- A service with another client. -/
def shared : Live := .run [.register true none false]

/-- Three events for a stream that holds one frame, of which one is read; then the other client goes. -/
def crowded : List StreamOperation :=
  [.service (.broadcast ⟨"t", "0"⟩), .service (.broadcast ⟨"t", "1"⟩),
    .service (.broadcast ⟨"t", "2"⟩), .poll, .service (.remove 0 .timeout)]

/-- One event is given, one is in the channel and one waits. When the service ends, the one in the
channel is given yet. -/
theorem run_never_stalls_full :
    ∃ s l₀, openOn shared 1 = some (s, l₀) ∧
      (s.run crowded l₀).answers = [.frame (StreamEvent.wire ⟨"t", "0"⟩)] ∧
      (s.run crowded l₀).service.registry.pending? s.client = some 1 ∧
      ∀ more, (s.run more (s.run crowded l₀).service.closeAll).answers =
        Poll.finale [StreamEvent.wire ⟨"t", "1"⟩] (more.count .poll) := by
  obtain ⟨s, l₀, hopen, hrun⟩ :=
    run_never_stalls (Live.isSound_run [.register true none false]).isProper
      (show 1 ≤ maxFrames by decide)
  let ch : Channel := { capacity := 1 }
  have hopen' : openOn shared 1 = some (⟨1, 1, false⟩, (shared.connect (.channel ch)).2) := rfl
  obtain ⟨rfl, rfl⟩ : s = ⟨1, 1, false⟩ ∧ l₀ = (shared.connect (.channel ch)).2 := by
    simpa using hopen.symm.trans hopen'
  have hspares : ∀ op, StreamOperation.service op ∈ crowded → op.Spares 1 := by
    simp [crowded, ServiceOperation.Spares]
  have hanswers : (run crowded ⟨1, 1, false⟩ (shared.connect (.channel ch)).2).answers =
      [.frame (StreamEvent.wire ⟨"t", "0"⟩)] := by decide +kernel
  have hpending : (run crowded ⟨1, 1, false⟩
      (shared.connect (.channel ch)).2).service.registry.pending? 1 = some 1 := by decide +kernel
  refine ⟨_, _, hopen', hanswers, hpending, ?_⟩
  obtain ⟨-, -, c, ch', hclient, -, hframes, -, hfull, -, -, -, -, hclose, -⟩ := hrun crowded hspares
  -- What waits in the queue keeps the channel full, so the channel holds the second frame.
  have hqueue : c.queue.length = 1 := by
    rw [Registry.pending?, hclient] at hpending
    exact Option.some.inj hpending
  have hlength : ch'.buffer.length = 1 := hfull (List.ne_nil_of_length_eq_add_one hqueue)
  have hbuffer : ch'.buffer = [StreamEvent.wire ⟨"t", "1"⟩] := by
    rw [hanswers] at hframes
    obtain ⟨frame, hframe⟩ := List.length_eq_one_iff.mp hlength
    rw [hframe] at hframes ⊢
    have hsecond := congrArg (fun frames => frames[1]?) hframes
    simpa [Poll.frames, crowded, StreamOperation.events, StreamOperation.service?, broadcasts]
      using hsecond
  rw [← hbuffer]
  exact hclose

end EventStream

end Sentinel
