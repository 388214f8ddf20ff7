import Sentinel.Proofs.Streaming.Run
import Sentinel.Proofs.Text.Utf8
/-!
# Delivery in order

What the recorder of a streaming client has been written, and what waits in the client's queue, are
together the events that were broadcast since the client came, in order.

1. `drainQueue_recorder`: emptying a queue into a recorder moves events from the front of the queue
   to the end of the recorder, or fails before the first one.
2. `isWaiting_step`, `isGone_step`: what one operation keeps of a client that is registered, and of
   one that is gone.
3. `isWaiting_foldl_step`: what a run keeps.
4. `received_in_order`: the bytes that each client of a run receives.
-/

namespace Sentinel

/-- The bytes of events as they are written. -/
def wireBytes (es : List StreamEvent) : Bytes := es.flatMap fun e => utf8 e.wire

/-- The events that a row of operations broadcasts. -/
def broadcasts (ops : List ServiceOperation) : List StreamEvent :=
  ops.filterMap fun
    | .broadcast e => some e
    | _ => none

theorem broadcasts_cons (op : ServiceOperation) (ops : List ServiceOperation) :
    broadcasts (op :: ops) = broadcasts [op] ++ broadcasts ops :=
  List.filterMap_append (l := [op])

/-- A recorder that fails only while it is set to. -/
def Recorder.IsSteady (r : Recorder) : Prop := r.flushFailing = false ∧ r.failsAfter = none

theorem flushIfReady_recorder {r : Recorder} (hr : r.IsSteady) :
    ∃ n, (Transport.recorder r).flushIfReady = .ok (.recorder { r with flushes := n }) := by
  have hflush : r.flush = .ok { r with flushes := r.flushes + 1 } := if_neg (by rw [hr.1]; decide)
  rw [Transport.flushIfReady]
  split
  · exact ⟨r.flushes + 1, by rw [Transport.flush, hflush]; rfl⟩
  · exact ⟨r.flushes, rfl⟩

theorem write_of_works {r : Recorder} (hr : r.IsSteady) (hopen : r.completed = false) (hworks : r.failing = false)
    (frame : String) : Transport.write frame (.recorder r) = .ok (.recorder { r with
      budget := r.budget.map (· - 1)
      failsAfter := r.failsAfter.map (· - 1)
      written := r.written ++ [frame] }) := by
  have hnotdone : ¬r.completed = true := by
    rw [hopen]
    decide
  have hnofault : ¬(r.failing || decide (r.failsAfter = some 0)) = true := by
    rw [hworks, hr.2]
    decide
  rw [Transport.write, Recorder.write, if_neg hnotdone, if_neg hnofault]
  rfl

/-- What comes of emptying a queue into a recorder: some events from the front are written, and the
others wait, or the first write fails. -/
structure Drained.Writes (d : Drained) (r : Recorder) (q : List StreamEvent) (n : Nat) : Prop where
  bound : n ≤ q.length
  transport : ∃ r', d.transport = .recorder r' ∧ r'.IsSteady ∧
    r'.written = r.written ++ (q.take n).map StreamEvent.wire
  outcome : d.failure = none ∧ d.queue = q.drop n ∨ d.failure ≠ none ∧ r.failing = true ∧ n = 0

theorem drainQueue_recorder (q : List StreamEvent) {r : Recorder} (hr : r.IsSteady) :
    ∃ n, (drainQueue (.recorder r) q).Writes r q n := by
  induction q generalizing r with
  | nil =>
    obtain ⟨n, hn⟩ := flushIfReady_recorder hr
    rw [drainQueue, hn]
    exact ⟨0, Nat.le_refl 0, ⟨_, rfl, hr, (List.append_nil _).symm⟩, .inl ⟨rfl, rfl⟩⟩
  | cons e es ih =>
    rw [drainQueue]
    split
    · next hready =>
      have hopen : r.completed = false := by
        simp only [Transport.isReady, Recorder.isReady, Bool.and_eq_true, Bool.not_eq_true'] at hready
        exact hready.2
      cases hf : r.failing with
      | true =>
        have hwrite : Transport.write e.wire (.recorder r) =
            .error (.broken "connection reset by peer") := by
          rw [Transport.write, Recorder.write, hopen, hf]
          rfl
        rw [hwrite]
        exact ⟨0, Nat.zero_le _, ⟨r, rfl, hr, (List.append_nil _).symm⟩, .inr ⟨nofun, hf, rfl⟩⟩
      | false =>
        let r' : Recorder := { r with
          budget := r.budget.map (· - 1)
          failsAfter := r.failsAfter.map (· - 1)
          written := r.written ++ [e.wire] }
        have hwrite : Transport.write e.wire (.recorder r) = .ok (.recorder r') := write_of_works hr hopen hf e.wire
        have hr' : r'.IsSteady := ⟨hr.1, congrArg (Option.map (· - 1)) hr.2⟩
        obtain ⟨flushes, hflush⟩ := flushIfReady_recorder hr'
        rw [hwrite]
        dsimp only
        rw [hflush]
        -- A recorder that takes one event fails at none of the others.
        obtain ⟨n, hbound, ⟨r'', htransport, hr'', hwritten⟩, hdone | ⟨-, hfails, -⟩⟩ :=
          ih (r := { r' with flushes }) hr'
        · refine ⟨n + 1, Nat.succ_le_succ hbound, ⟨r'', htransport, hr'', ?_⟩, .inl hdone⟩
          rw [hwritten, List.take_succ_cons, List.map_cons]
          show r.written ++ [e.wire] ++ _ = _
          rw [List.append_assoc, List.singleton_append]
        · cases hf.symm.trans hfails
    · exact ⟨0, Nat.zero_le _, ⟨r, rfl, hr, (List.append_nil _).symm⟩, .inl ⟨rfl, rfl⟩⟩

namespace Seat

variable {s : Seat} {es : List StreamEvent} {frames : List String} {id : ClientId}

/-- The transport of the seat is a recorder to which some frames have been written. -/
def HasWritten (s : Seat) (frames : List String) : Prop :=
  ∃ r : Recorder, s.transport? = some (.recorder r) ∧ r.IsSteady ∧ r.written = frames

/-- A registered client to which some events have been broadcast: the first of them are written, and
the others wait. -/
def IsWaiting (s : Seat) (es : List StreamEvent) : Prop :=
  ∃ c n, s.client? = some c ∧ n ≤ es.length ∧ s.HasWritten ((es.take n).map StreamEvent.wire) ∧
    c.queue = es.drop n

/-- A client that is gone, and to which some frames were written. -/
def IsGone (s : Seat) (frames : List String) : Prop := s.client? = none ∧ s.HasWritten frames

/-- A change of transports that leaves the frames of a recorder alone. -/
def KeepsFrames (f : Transport → Transport) : Prop :=
  ∀ r : Recorder, ∃ r', f (.recorder r) = .recorder r' ∧ (r.IsSteady → r'.IsSteady) ∧
    r'.written = r.written

theorem keepsFrames_release : KeepsFrames Transport.release := fun r => ⟨r, rfl, id, rfl⟩

theorem keepsFrames_complete : KeepsFrames Transport.complete := fun _ => ⟨_, rfl, id, rfl⟩

theorem keepsFrames_apply (setting : RecorderSetting) : KeepsFrames setting.apply := by
  intro r
  cases setting with
  | ready ready => exact ⟨_, rfl, id, rfl⟩
  | budget writes => exact ⟨_, rfl, id, rfl⟩
  | failing failing => exact ⟨_, rfl, id, rfl⟩

theorem HasWritten.modify {f : Transport → Transport} (h : s.HasWritten frames) (hf : KeepsFrames f) :
    (s.modify f).HasWritten frames := by
  obtain ⟨r, htransport, hflush, hwritten⟩ := h
  obtain ⟨r', hr', hflush', hwritten'⟩ := hf r
  refine ⟨r', ?_, hflush' hflush, hwritten'.trans hwritten⟩
  show s.transport?.map f = _
  rw [htransport, Option.map_some, hr']

theorem IsGone.modify {f : Transport → Transport} (h : s.IsGone frames) (hf : KeepsFrames f) :
    (s.modify f).IsGone frames := ⟨h.1, h.2.modify hf⟩

theorem isGone_remove (h : s.HasWritten frames) (reason : ClosedReason) :
    (s.remove reason).IsGone frames := by
  rw [remove]
  cases hc : s.client? with
  | none => exact ⟨hc, h⟩
  | some c => exact ⟨rfl, h.modify keepsFrames_release⟩

theorem IsGone.step (h : s.IsGone frames) (op : ServiceOperation) : (s.step id op).IsGone frames := by
  rcases step_of_gone h.1 op with hsame | ⟨setting, hset⟩
  · rw [hsame]
    exact h
  · rw [hset]
    exact h.modify (keepsFrames_apply setting)

/-- A client whose queue is emptied still waits for the rest, or is gone without having been written
anything more. -/
theorem isWaiting_drain {c : Client} {n : Nat} (hs : s.client? ≠ none) (hn : n ≤ es.length)
    (hw : s.HasWritten ((es.take n).map StreamEvent.wire)) (hq : c.queue = es.drop n) :
    (s.drain c).IsWaiting es ∨ (s.drain c).IsGone ((es.take n).map StreamEvent.wire) := by
  obtain ⟨r, htransport, hflush, hwritten⟩ := hw
  have hget : s.transport = .recorder r := by
    rw [transport, htransport]
    rfl
  obtain ⟨c', hc'⟩ := Option.ne_none_iff_exists'.mp hs
  obtain ⟨m, hbound, ⟨r', hr', hflush', hwritten'⟩, houtcome⟩ := drainQueue_recorder c.queue hflush
  rw [drain, hget]
  generalize drainQueue (.recorder r) c.queue = d at hr' houtcome ⊢
  obtain ⟨queue, transport', failure⟩ := d
  obtain rfl : transport' = .recorder r' := hr'
  rw [hq] at hbound hwritten' houtcome
  rcases houtcome with ⟨hnone, hrest⟩ | ⟨hsome, -, hm⟩
  · obtain rfl : failure = none := hnone
    have htaken : r'.written = (es.take (n + m)).map StreamEvent.wire := by
      rw [hwritten', hwritten, List.take_add, List.map_append]
    let state : ClientState := if queue.isEmpty && true then .idle else .draining
    refine .inl ⟨{ c with queue, state }, n + m, ?_, ?_, ⟨r', ?_, hflush', htaken⟩, ?_⟩
    · show s.client?.map _ = _
      rw [hc']
      rfl
    · rw [List.length_drop] at hbound
      omega
    · show s.transport?.map _ = _
      rw [htransport]
      rfl
    · rw [← List.drop_drop]
      exact hrest
  · obtain ⟨e, rfl⟩ : ∃ e, failure = some e := Option.ne_none_iff_exists'.mp hsome
    rw [hm] at hwritten'
    refine .inr (IsGone.modify (isGone_remove ⟨r', ?_, hflush', ?_⟩ .error) keepsFrames_complete)
    · show s.transport?.map _ = _
      rw [htransport]
      rfl
    · rw [hwritten', hwritten]
      exact List.append_nil _

/-- What an operation does to a client to which some events have been broadcast: one that is still
registered waits for those and for what the operation broadcasts, and one that is gone was written
some of the earlier ones. -/
theorem IsWaiting.step (h : s.IsWaiting es) (op : ServiceOperation) :
    (s.step id op).IsWaiting (es ++ broadcasts [op]) ∨
      ∃ n ≤ es.length, (s.step id op).IsGone ((es.take n).map StreamEvent.wire) := by
  obtain ⟨c, n, hc, hn, hw, hq⟩ := h
  have hs : s.client? ≠ none := by
    rw [hc]
    exact nofun
  have hwaiting : s.IsWaiting (es ++ []) := by
    rw [List.append_nil]
    exact ⟨c, n, hc, hn, hw, hq⟩
  cases op with
  | register ready budget failing => exact .inl hwaiting
  | broadcast e =>
    have hn' : n ≤ (es ++ [e]).length := by
      rw [List.length_append]
      omega
    have htake : (es ++ [e]).take n = es.take n := List.take_append_of_le_length hn
    have hdrop : c.queue ++ [e] = (es ++ [e]).drop n := by
      rw [List.drop_append_of_le_length hn, hq]
    rw [Seat.step, deliver, hc]
    have hdrain := isWaiting_drain hs hn' (htake.symm ▸ hw) (c := { c with queue := c.queue ++ [e] }) hdrop
    rcases hdrain with h | h
    · exact .inl h
    · rw [htake] at h
      exact .inr ⟨n, hn, h⟩
  | writable k =>
    rw [Seat.step]
    split
    · rw [onWritable, hc]
      rcases isWaiting_drain hs hn hw hq with h | h
      · exact .inl (by simpa [broadcasts] using h)
      · exact .inr ⟨n, hn, h⟩
    · exact .inl hwaiting
  | remove k reason =>
    rw [Seat.step]
    split
    · exact .inr ⟨n, hn, isGone_remove hw reason⟩
    · exact .inl hwaiting
  | closeAll =>
    rw [Seat.step, shut, hc]
    exact .inr ⟨n, hn, (isGone_remove hw .shutdown).modify keepsFrames_complete⟩
  | adjust k setting =>
    rw [Seat.step]
    split
    · obtain hw' := hw.modify (keepsFrames_apply setting)
      exact .inl (by simpa [broadcasts] using ⟨c, n, hc, hn, hw', hq⟩)
    · exact .inl hwaiting

theorem IsGone.foldl_step (h : s.IsGone frames) (ops : List ServiceOperation) :
    (ops.foldl (Seat.step id) s).IsGone frames := by
  induction ops generalizing s with
  | nil => exact h
  | cons op ops ih => exact ih (h.step op)

/-- What a run does to a client: it waits for all that was broadcast to it, or there is an operation
with which it goes, and from which on nothing is written to it. -/
theorem IsWaiting.foldl_step (h : s.IsWaiting es) (ops : List ServiceOperation) :
    (ops.foldl (Seat.step id) s).IsWaiting (es ++ broadcasts ops) ∨
      ∃ middle op rest, ops = middle ++ op :: rest ∧
        (middle.foldl (Seat.step id) s).IsWaiting (es ++ broadcasts middle) ∧
        ∃ n ≤ (es ++ broadcasts middle).length, ∀ more,
          ((middle ++ op :: more).foldl (Seat.step id) s).IsGone
            (((es ++ broadcasts middle).take n).map StreamEvent.wire) := by
  -- By induction on the operations; the first one that takes the client away ends its wait.
  induction ops generalizing s es with
  | nil => exact .inl (by simpa [broadcasts] using h)
  | cons op ops ih =>
    have hcons (ops : List ServiceOperation) :
        es ++ broadcasts [op] ++ broadcasts ops = es ++ broadcasts (op :: ops) := by
      rw [List.append_assoc, ← broadcasts_cons]
    have hstep : (s.step id op).IsWaiting (es ++ broadcasts [op]) ∨
        ∃ n ≤ es.length, (s.step id op).IsGone ((es.take n).map StreamEvent.wire) := h.step op
    rcases hstep with hwaiting | ⟨n, hn, hgone⟩
    · rcases ih hwaiting with h | ⟨middle, last, rest, rfl, hmiddle, n, hn, hgone⟩
      · rw [hcons] at h
        exact .inl h
      · rw [hcons] at hmiddle hn hgone
        exact .inr ⟨op :: middle, last, rest, rfl, hmiddle, n, hn, hgone⟩
    · have hnil : es ++ broadcasts [] = es := List.append_nil _
      refine .inr ⟨[], op, ops, rfl, hnil.symm ▸ h, n, hnil.symm ▸ hn, fun more => ?_⟩
      rw [hnil]
      exact hgone.foldl_step more

end Seat

namespace Live

/-- The bytes that a recorder has received. -/
def received (l : Live) (t : TransportId) : Bytes :=
  match l.connections.get t with
  | .recorder r => utf8 r.text
  | .channel _ => []

theorem received_eq {l : Live} {k : ClientId} {es : List StreamEvent}
    (h : (l.seat k).HasWritten (es.map StreamEvent.wire)) : l.received k = wireBytes es := by
  obtain ⟨r, htransport, -, hwritten⟩ := h
  have hget : l.connections.get k = .recorder r := by
    show (l.seat k).transport?.getD _ = _
    rw [htransport]
    rfl
  rw [received, hget]
  show utf8 (String.join r.written) = _
  rw [hwritten, utf8_join, List.flatMap_map]
  rfl

theorem isWaiting_run (before after : List ServiceOperation) (ready : Bool) (budget : Option Nat)
    (failing : Bool) :
    let k := (run before).connections.issued
    let coming := before ++ [.register ready budget failing]
    ((run (coming ++ after)).seat k).IsWaiting (broadcasts after) ∨
      ∃ middle op rest, after = middle ++ op :: rest ∧
        ((run (coming ++ middle)).seat k).IsWaiting (broadcasts middle) ∧
        ∃ n ≤ (broadcasts middle).length, ∀ more,
          ((run (coming ++ (middle ++ op :: more))).seat k).IsGone
            (((broadcasts middle).take n).map StreamEvent.wire) := by
  intro k coming
  let start := ((run before).seat k).opened k (.recorder { ready, budget, failing })
  have hstart : start.IsWaiting [] :=
    ⟨⟨k, k, [], .opened⟩, 0, rfl, Nat.le_refl 0, ⟨_, rfl, ⟨rfl, rfl⟩, rfl⟩, rfl⟩
  have hseat (ops : List ServiceOperation) :
      (run (coming ++ ops)).seat k = ops.foldl (Seat.step k) start := by
    have happend : coming ++ ops = before ++ .register ready budget failing :: ops := by
      rw [List.append_assoc, List.singleton_append]
    rw [happend]
    exact seat_run before ops ready budget failing
  simp only [hseat]
  exact hstart.foldl_step after

/-- In every run, what a registered client has received are the bytes of the first of the events that
were broadcast since it came, and the others wait in its queue, in order. A client that is gone has
received the bytes of the first of the events that were broadcast between its coming and its going,
and that never changes. -/
theorem received_in_order :
    (∀ ops, ∀ c ∈ (run ops).registry.clients, ∃ before ready budget failing after,
      ops = before ++ .register ready budget failing :: after ∧
        c.id = ((run before).connect (.recorder { ready, budget, failing })).1 ∧
        ∃ n ≤ (broadcasts after).length,
          (run ops).received c.transport = wireBytes ((broadcasts after).take n) ∧
          c.queue = (broadcasts after).drop n) ∧
    (∀ before ready budget failing after,
      let t : Transport := .recorder { ready, budget, failing }
      let id := ((run before).connect t).1
      let transport := ((run before).connections.add t).1
      let coming := before ++ [.register ready budget failing]
      (run (coming ++ after)).registry.find? id = none →
        ∃ middle op rest, after = middle ++ op :: rest ∧
          (run (coming ++ middle)).registry.find? id ≠ none ∧
          ∃ n ≤ (broadcasts middle).length, ∀ more,
            (run (coming ++ (middle ++ op :: more))).registry.find? id = none ∧
            (run (coming ++ (middle ++ op :: more))).received transport =
              wireBytes ((broadcasts middle).take n)) := by
  refine ⟨?_, ?_⟩
  · intro ops c hc
    have h := isSound_run ops
    obtain ⟨before, ready, budget, failing, after, rfl, hid⟩ := exists_register ops (h.known c hc)
    have happend : before ++ .register ready budget failing :: after =
        before ++ [.register ready budget failing] ++ after := by
      rw [List.append_assoc, List.singleton_append]
    have hfind : ((run (before ++ .register ready budget failing :: after)).seat c.id).client? =
        some c := (find?_eq_some_iff h).mpr hc
    refine ⟨before, ready, budget, failing, after, rfl, hid, ?_⟩
    rw [happend] at hfind ⊢
    rw [h.transport c hc]
    rcases isWaiting_run before after ready budget failing with
      hwaiting | ⟨middle, op, rest, rfl, -, n, -, hgone⟩
    · rw [← hid] at hwaiting
      obtain ⟨c', n, hc', hn, hwritten, hqueue⟩ := hwaiting
      obtain rfl : c = c' := Option.some.inj (hfind.symm.trans hc')
      exact ⟨n, hn, received_eq hwritten, hqueue⟩
    · have hnone := (hgone rest).1
      rw [← hid, hfind] at hnone
      cases hnone
  · intro before ready budget failing after t id transport coming hgone
    have htransport : transport = id := (isSound_run before).issued
    rcases isWaiting_run before after ready budget failing with
      ⟨c, n, hc, -⟩ | ⟨middle, op, rest, hafter, ⟨c, m, hc, -⟩, n, hn, hafterwards⟩
    · cases hgone.symm.trans hc
    · refine ⟨middle, op, rest, hafter, ?_, n, hn, fun more => ⟨(hafterwards more).1, ?_⟩⟩
      · intro hnone
        cases hnone.symm.trans hc
      · rw [htransport]
        exact received_eq (hafterwards more).2

/-- A client that takes one of two events before it stalls, and then times out. -/
def stalled : List ServiceOperation :=
  [.register true (some 1) false, .broadcast ⟨"a", "1"⟩, .broadcast ⟨"b", "2"⟩]

/-- One event is received and one waits; behind the time-out nothing else is ever received. -/
theorem received_in_order_stalled :
    (run stalled).registry.clients = [⟨0, 0, [⟨"b", "2"⟩], .draining⟩] ∧
      (run stalled).received 0 = wireBytes [⟨"a", "1"⟩] ∧
      (run (stalled ++ [.remove 0 .timeout])).registry.find? 0 = none ∧
      ∃ middle op es, es <+: broadcasts middle ∧ broadcasts middle <+: broadcasts stalled ∧ ∀ more,
        (run (.register true (some 1) false :: (middle ++ op :: more))).received 0 = wireBytes es := by
  have hclients : (run stalled).registry.clients = [⟨0, 0, [⟨"b", "2"⟩], .draining⟩] := by
    decide +kernel
  have hnone : (run (stalled ++ [.remove 0 .timeout])).registry.find? 0 = none := by decide +kernel
  obtain ⟨hregistered, hgone⟩ := received_in_order
  refine ⟨hclients, ?_, hnone, ?_⟩
  · obtain ⟨before, ready, budget, failing, after, hsplit, -, n, -, hreceived, hqueue⟩ :=
      hregistered stalled ⟨0, 0, [⟨"b", "2"⟩], .draining⟩ (hclients ▸ List.mem_cons_self)
    rcases before with _ | ⟨op, before⟩
    · cases hsplit
      have hn : n = 1 := by
        have hlength := congrArg List.length hqueue
        rw [List.length_drop] at hlength
        simp [broadcasts] at hlength
        omega
      rw [hn] at hreceived
      exact hreceived
    · have hmem : ServiceOperation.register ready budget failing ∈ stalled.tail := by
        rw [hsplit]
        simp
      simp [stalled] at hmem
  · obtain ⟨middle, op, rest, hafter, -, n, -, hreceived⟩ :=
      hgone [] true (some 1) false (stalled.tail ++ [.remove 0 .timeout]) hnone
    have hall : broadcasts (middle ++ op :: rest) = broadcasts stalled := by
      rw [← hafter]
      rfl
    refine ⟨middle, op, (broadcasts middle).take n, List.take_prefix _ _, ?_, ?_⟩
    · rw [← hall, broadcasts, broadcasts, List.filterMap_append]
      exact List.prefix_append _ _
    · exact fun more => (hreceived more).2

end Live

end Sentinel
