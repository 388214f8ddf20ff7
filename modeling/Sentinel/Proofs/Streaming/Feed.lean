import Sentinel.Proofs.Streaming.Delivery
import Sentinel.Streaming.EventStream
/-!
# Clients that feed a channel

The frames that wait for a client with a channel are those in the channel and, behind them, those in
its queue. The queue holds something only while the channel is full.

1. `drainQueue_channel`: emptying a queue into an open channel fills the channel, and never fails.
2. `isFed_drain`: whatever was in the channel and in the queue before, the channel is full behind a
   drain or the queue is empty.
3. `IsFed.step`, `Feeds.receive`: what an operation and the reading of a frame keep of the client.
4. `IsOver.step`, `IsOver.receive`: a client that is gone leaves what its channel holds, and nothing
   comes to it.
-/

namespace Sentinel

/-- The operation does not take away the client with this number. -/
def ServiceOperation.Spares (id : ClientId) (op : ServiceOperation) : Prop :=
  op ≠ .closeAll ∧ ∀ reason, op ≠ .remove id reason

namespace Channel

/-- How many frames the channel still takes. -/
def room (ch : Channel) : Nat := ch.capacity - ch.buffer.length

/-- The channel with the first events of a queue put into it. -/
def filled (ch : Channel) (q : List StreamEvent) : Channel :=
  { ch with buffer := ch.buffer ++ (q.take ch.room).map StreamEvent.wire }

theorem length_filled {ch : Channel} (hbound : ch.buffer.length ≤ ch.capacity) (q : List StreamEvent) :
    (ch.filled q).buffer.length ≤ ch.capacity ∧
      (q.drop ch.room ≠ [] → (ch.filled q).buffer.length = ch.capacity) := by
  have hlength : (ch.filled q).buffer.length = ch.buffer.length + min ch.room q.length := by
    simp [filled]
  have hroom : ch.room = ch.capacity - ch.buffer.length := rfl
  refine ⟨by omega, fun hq => ?_⟩
  have hq : ch.room < q.length := Nat.lt_of_not_le fun hle => hq (List.drop_eq_nil_of_le hle)
  omega

theorem filled_append_drop (ch : Channel) (q : List StreamEvent) :
    (ch.filled q).buffer ++ (q.drop ch.room).map StreamEvent.wire =
      ch.buffer ++ q.map StreamEvent.wire := by
  rw [filled, List.append_assoc, ← List.map_append, List.take_append_drop]

theorem receive_of_nil {ch : Channel} (h : ch.buffer = []) :
    ch.receive = (if ch.senderOpen && ch.receiverOpen then .pending else .ended, ch) := by
  unfold receive
  rw [h]

theorem receive_of_cons {ch : Channel} {frame : String} {rest : List String}
    (h : ch.buffer = frame :: rest) : ch.receive = (.frame frame, { ch with buffer := rest }) := by
  unfold receive
  rw [h]

theorem receive_ends (ch : Channel) :
    ch.receive.2.senderOpen = ch.senderOpen ∧ ch.receive.2.receiverOpen = ch.receiverOpen := by
  cases h : ch.buffer with
  | nil =>
    rw [receive_of_nil h]
    exact ⟨rfl, rfl⟩
  | cons frame rest =>
    rw [receive_of_cons h]
    exact ⟨rfl, rfl⟩

end Channel

theorem flushIfReady_channel (ch : Channel) :
    (Transport.channel ch).flushIfReady = .ok (.channel ch) := by
  rw [Transport.flushIfReady]
  split <;> rfl

/-- Emptying a queue into a channel that is open at both ends: the channel takes as many events as it
has room for, and refuses none of them. -/
theorem drainQueue_channel (q : List StreamEvent) {ch : Channel} (hsender : ch.senderOpen = true)
    (hreceiver : ch.receiverOpen = true) :
    drainQueue (.channel ch) q =
      ⟨q.drop ch.room, .channel (ch.filled q), none, (drainQueue (.channel ch) q).calls⟩ := by
  suffices hdrained : ∃ calls, drainQueue (.channel ch) q =
      ⟨q.drop ch.room, .channel (ch.filled q), none, calls⟩ by
    obtain ⟨calls, hdrained⟩ := hdrained
    rw [hdrained]
  induction q generalizing ch with
  | nil =>
    rw [drainQueue, flushIfReady_channel, Channel.filled]
    simp
  | cons e es ih =>
    have hready : (Transport.channel ch).isReady = decide (ch.buffer.length < ch.capacity) := by
      rw [Transport.isReady, Channel.isReady, hsender, Bool.true_and]
    rw [drainQueue, hready]
    by_cases hroom : ch.buffer.length < ch.capacity
    · let ch' : Channel := { ch with buffer := ch.buffer ++ [e.wire] }
      have hwrite : Transport.write e.wire (.channel ch) = .ok (.channel ch') := by
        have hopen : ¬(!ch.senderOpen || !ch.receiverOpen) = true := by simp [hsender, hreceiver]
        rw [Transport.write, Channel.write, if_neg hopen, if_pos hroom]
        rfl
      have hone : ch.room = ch'.room + 1 := by
        show ch.capacity - ch.buffer.length = ch.capacity - (ch.buffer ++ [e.wire]).length + 1
        rw [List.length_append, List.length_singleton]
        omega
      obtain ⟨calls, hrest⟩ := ih (show ch'.senderOpen = true from hsender) hreceiver
      rw [if_pos (decide_eq_true hroom), hwrite]
      dsimp only
      rw [flushIfReady_channel]
      dsimp only
      rw [hrest, Channel.filled, Channel.filled, hone, List.take_succ_cons, List.drop_succ_cons,
        List.map_cons, List.append_cons]
      exact ⟨_, rfl⟩
    · have hzero : ch.room = 0 := Nat.sub_eq_zero_of_le (Nat.le_of_not_lt hroom)
      rw [if_neg (by simpa using hroom), Channel.filled, hzero]
      simp

namespace Seat

variable {s : Seat} {id : ClientId} {capacity : Nat} {c : Client} {ch : Channel}
  {frames : List String} {closings : List (ClosedReason × Nat)}

/-- The transport is a channel for so many frames that is open at both ends. -/
structure Holds (s : Seat) (capacity : Nat) (ch : Channel) : Prop where
  transport : s.transport? = some (.channel ch)
  sender : ch.senderOpen = true
  receiver : ch.receiverOpen = true
  size : ch.capacity = capacity
  bound : ch.buffer.length ≤ capacity

/-- A client is registered and feeds an open channel: only while the channel is full does anything wait
in the client's queue. -/
structure Feeds (s : Seat) (capacity : Nat) (c : Client) (ch : Channel) : Prop
    extends s.Holds capacity ch where
  client : s.client? = some c
  full : c.queue ≠ [] → ch.buffer.length = capacity

/-- A client feeds an open channel, and these frames wait in the channel and in the queue. -/
def IsFed (s : Seat) (capacity : Nat) (frames : List String) (closings : List (ClosedReason × Nat)) :
    Prop :=
  ∃ c ch, s.Feeds capacity c ch ∧ ch.buffer ++ c.queue.map StreamEvent.wire = frames ∧
    s.closings = closings

/-- A client is gone, and these frames are left in its channel. -/
def IsOver (s : Seat) (frames : List String) : Prop :=
  s.client? = none ∧
    ∃ ch, s.transport? = some (.channel ch) ∧ ch.senderOpen = false ∧ ch.buffer = frames

theorem isFed_drain (h : s.Holds capacity ch) (hs : s.client? ≠ none) (c : Client) :
    (s.drain c).IsFed capacity (ch.buffer ++ c.queue.map StreamEvent.wire) s.closings := by
  obtain ⟨c', hc'⟩ := Option.ne_none_iff_exists'.mp hs
  have hget : s.transport = .channel ch := by
    rw [transport, h.transport]
    rfl
  have hbound : ch.buffer.length ≤ ch.capacity := h.size ▸ h.bound
  obtain ⟨hfilled, hfull⟩ := Channel.length_filled hbound c.queue
  let queue := c.queue.drop ch.room
  let state : ClientState := if queue.isEmpty && true then .idle else .draining
  have hdrain : s.drain c =
      { s with
        client? := some { c with queue, state }
        transport? := some (.channel (ch.filled c.queue)) } := by
    rw [drain, hget, drainQueue_channel c.queue h.sender h.receiver, modify, h.transport, hc']
    rfl
  rw [hdrain]
  refine ⟨{ c with queue, state }, ch.filled c.queue,
    ⟨⟨rfl, h.sender, h.receiver, h.size, h.size ▸ hfilled⟩, rfl, fun hq => ?_⟩,
    ch.filled_append_drop c.queue, rfl⟩
  exact (hfull hq).trans h.size

/-- What comes of a frame being read from a channel: the client goes on with what waits. -/
theorem Feeds.receive {frame : String} {rest : List String} (h : s.Feeds capacity c ch)
    (hbuffer : ch.buffer = frame :: rest) :
    ((s.modify fun _ => .channel { ch with buffer := rest }).onWritable).IsFed capacity
      (rest ++ c.queue.map StreamEvent.wire) s.closings := by
  have hbound := h.bound
  rw [hbuffer, List.length_cons] at hbound
  have hholds : (s.modify fun _ => .channel { ch with buffer := rest }).Holds capacity
      { ch with buffer := rest } := by
    refine ⟨?_, h.sender, h.receiver, h.size, Nat.le_of_succ_le hbound⟩
    rw [modify, h.transport]
    rfl
  have hclient : (s.modify fun _ => .channel { ch with buffer := rest }).client? = some c := h.client
  rw [onWritable, hclient]
  exact isFed_drain hholds (by simp [hclient]) c

theorem Feeds.remove (h : s.Feeds capacity c ch) (reason : ClosedReason) :
    (s.remove reason).IsOver ch.buffer := by
  rw [Seat.remove, h.client]
  refine ⟨rfl, { ch with senderOpen := false }, ?_, rfl, rfl⟩
  show s.transport?.map _ = _
  rw [h.transport]
  rfl

theorem Feeds.shut (h : s.Feeds capacity c ch) : s.shut.IsOver ch.buffer := by
  obtain ⟨hclient, ch', htransport, -, hbuffer⟩ := h.remove .shutdown
  rw [Seat.shut, h.client]
  refine ⟨hclient, { ch' with senderOpen := false }, ?_, rfl, hbuffer⟩
  show (s.remove .shutdown).transport?.map _ = _
  rw [htransport]
  rfl

/-- What an operation keeps of a client that feeds a channel, unless it takes the client away. -/
theorem IsFed.step {op : ServiceOperation} (h : s.IsFed capacity frames closings)
    (hop : op.Spares id) :
    (s.step id op).IsFed capacity (frames ++ (broadcasts [op]).map StreamEvent.wire) closings := by
  have hsame : s.IsFed capacity (frames ++ List.map StreamEvent.wire []) closings := by
    rw [List.map_nil, List.append_nil]
    exact h
  obtain ⟨c, ch, hfeeds, hwaiting, hclosings⟩ := h
  have hs : s.client? ≠ none := by
    rw [hfeeds.client]
    exact nofun
  cases op with
  | register ready budget failing => exact hsame
  | broadcast e =>
    have hdrain := isFed_drain hfeeds.toHolds hs { c with queue := c.queue ++ [e] }
    rw [List.map_append, ← List.append_assoc, hwaiting, hclosings] at hdrain
    rw [Seat.step, deliver, hfeeds.client]
    exact hdrain
  | writable k =>
    rw [Seat.step]
    split
    · have hdrain := isFed_drain hfeeds.toHolds hs c
      rw [hwaiting, hclosings] at hdrain
      rw [onWritable, hfeeds.client]
      simpa [broadcasts] using hdrain
    · exact hsame
  | remove k reason =>
    rw [Seat.step, if_neg fun hk => hop.2 reason (by rw [hk])]
    exact hsame
  | closeAll => exact absurd rfl hop.1
  | adjust k setting =>
    rw [Seat.step, modify_apply hfeeds.transport, ite_self]
    exact hsame

theorem IsOver.step (h : s.IsOver frames) (op : ServiceOperation) : (s.step id op).IsOver frames := by
  obtain ⟨ch, htransport, -⟩ := h.2
  have hsame : s.step id op = s := by
    rcases step_of_gone h.1 op with hsame | ⟨setting, hset⟩
    · exact hsame
    · rw [hset, modify_apply htransport]
  rw [hsame]
  exact h

theorem IsOver.receive {frame : String} {rest : List String} (h : s.IsOver (frame :: rest))
    (htransport : s.transport? = some (.channel ch)) :
    ((s.modify fun _ => .channel { ch with buffer := rest }).onWritable).IsOver rest := by
  obtain ⟨hclient, ch', htransport', hsender, -⟩ := h
  obtain rfl : ch = ch' := by simpa using htransport.symm.trans htransport'
  have hnone : (s.modify fun _ => .channel { ch with buffer := rest }).client? = none := hclient
  rw [onWritable, hnone]
  refine ⟨hnone, { ch with buffer := rest }, ?_, hsender, rfl⟩
  show s.transport?.map _ = _
  rw [htransport]
  rfl

end Seat

end Sentinel
