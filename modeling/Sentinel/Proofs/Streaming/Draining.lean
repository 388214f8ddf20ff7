import Sentinel.Proofs.Streaming.Delivery
/-!
# How far queues are emptied

A queue is emptied until nothing is left, the transport is not ready any more, or a call fails. What is left
in it, what the transport is like then, and what the state of the client is afterwards go together.

1. `stops_drainQueue`: why emptying a queue stops, and with which call it ends.
2. `drainQueue_budget`: how much a recorder is written that does not fail.
3. `Seat.client?_drain`, `Seat.transport_drain`: the client and its transport afterwards.
4. `Seat.drain_outcome`: how they go together.
-/

namespace Sentinel

/-- Emptying a queue stops with nothing left or at a transport that is not ready, if no call fails; and if the
transport is ready at the end, all was passed on with the last call. -/
structure Drained.Stops (d : Drained) : Prop where
  rest : d.failure = none → d.queue = [] ∨ d.transport.isReady = false
  flushed : d.failure = none → d.transport.isReady = true → d.calls.getLast? = some (.flush none)

/-- Nothing is said of a queue where a call failed. -/
theorem Drained.Stops.of_failure {d : Drained} (h : d.failure ≠ none) : d.Stops :=
  ⟨fun hnone => absurd hnone h, fun hnone => absurd hnone h⟩

theorem Drained.Stops.after {d : Drained} (h : d.Stops) (calls : List TransportCall) : (d.after calls).Stops := by
  refine ⟨h.rest, ?_⟩
  intro hnone hready
  have hlast : d.calls.getLast? = some (.flush none) := h.flushed hnone hready
  show (calls ++ d.calls).getLast? = _
  rw [List.getLast?_append, hlast]
  rfl

theorem stops_drainQueue (t : Transport) (q : List StreamEvent) : (drainQueue t q).Stops := by
  -- By induction on the queue, for any transport: each write leaves another one behind it.
  induction q generalizing t with
  | nil =>
    rw [drainQueue]
    cases hflush : t.flushIfReady with
    | error e => exact .of_failure (Option.some_ne_none _)
    | ok t' =>
      refine ⟨fun _ => .inl rfl, ?_⟩
      intro _ hready
      have hready' : t.isReady = true := by
        by_contra hstalled
        rw [Transport.flushIfReady, if_neg hstalled] at hflush
        obtain rfl := Except.ok.inj hflush
        exact hstalled hready
      rw [Transport.flushIfReady, if_pos hready'] at hflush
      simp [Transport.flushCalls, hready', hflush]
  | cons e es ih =>
    rw [drainQueue]
    split
    · cases hwrite : t.write e.wire with
      | error f => exact .of_failure (Option.some_ne_none _)
      | ok t₁ =>
        dsimp only
        cases hflush : t₁.flushIfReady with
        | error f => exact .of_failure (Option.some_ne_none _)
        | ok t₂ => exact (ih t₂).after _
    · next hstalled =>
      have hstalled : t.isReady = false := by simpa using hstalled
      exact ⟨fun _ => .inr hstalled, fun _ hready => by simp [hstalled] at hready⟩

theorem drainQueue_budget (q : List StreamEvent) {r : Recorder} (hr : r.IsSteady) (hready : r.ready = true)
    (hopen : r.completed = false) (hworks : r.failing = false) :
    let n := min (r.budget.getD q.length) q.length
    let d := drainQueue (.recorder r) q
    d.failure = none ∧ d.queue = q.drop n ∧
      ∃ r', d.transport = .recorder r' ∧ r'.written = r.written ++ (q.take n).map StreamEvent.wire := by
  induction q generalizing r with
  | nil =>
    obtain ⟨flushes, hflush⟩ := flushIfReady_recorder hr
    rw [drainQueue, hflush]
    exact ⟨rfl, by simp, _, rfl, by simp⟩
  | cons e es ih =>
    by_cases hspent : r.budget = some 0
    · have hstalled : (Transport.recorder r).isReady = false := by
        simp [Transport.isReady, Recorder.isReady, hspent]
      rw [drainQueue, hstalled]
      exact ⟨rfl, by simp [hspent], r, rfl, by simp [hspent]⟩
    · -- There is budget for one event, and one less for the others.
      let r' : Recorder := { r with
        budget := r.budget.map (· - 1)
        failsAfter := r.failsAfter.map (· - 1)
        written := r.written ++ [e.wire] }
      have hr' : r'.IsSteady := ⟨hr.1, congrArg (Option.map (· - 1)) hr.2⟩
      have hwilling : (Transport.recorder r).isReady = true ∧
          min (r.budget.getD (es.length + 1)) (es.length + 1) = min (r'.budget.getD es.length) es.length + 1 := by
        cases hbudget : r.budget with
        | none => simp [Transport.isReady, Recorder.isReady, r', hbudget, hready, hopen]
        | some b =>
          have hb : 0 < b := by
            rw [hbudget] at hspent
            exact Nat.pos_of_ne_zero fun hb => hspent (congrArg some hb)
          simp [Transport.isReady, Recorder.isReady, r', hbudget, hready, hopen, hb]
          omega
      obtain ⟨flushes, hflush⟩ := flushIfReady_recorder hr'
      obtain ⟨hnone, hqueue, r'', htransport, hwritten⟩ := ih (r := { r' with flushes }) hr' hready hopen hworks
      rw [drainQueue, if_pos hwilling.1, write_of_works hr hopen hworks e.wire]
      dsimp only
      rw [hflush, List.length_cons, hwilling.2]
      refine ⟨hnone, hqueue, r'', htransport, ?_⟩
      rw [hwritten, List.take_succ_cons, List.map_cons]
      simp [r']

theorem Transport.isReady_complete (t : Transport) : t.complete.isReady = false := by
  cases t <;> simp [complete, isReady, Recorder.isReady, Channel.isReady]

namespace Seat

variable {s : Seat} {c : Client}

@[simp] theorem client?_remove (s : Seat) (reason : ClosedReason) : (s.remove reason).client? = none := by
  rw [remove]
  cases hclient : s.client? with
  | none => exact hclient
  | some c => rfl

@[simp] theorem client?_shut (s : Seat) : s.shut.client? = none := by
  rw [shut]
  cases hclient : s.client? with
  | none => exact hclient
  | some c => exact client?_remove s .shutdown

/-- A client whose queue is emptied is idle if nothing is left and draining otherwise; it is gone if a call
failed. -/
theorem client?_drain (hs : s.client? ≠ none) :
    (s.drain c).client? = if (drainQueue s.transport c.queue).failure = none then
      some { c with
        queue := (drainQueue s.transport c.queue).queue
        state := if (drainQueue s.transport c.queue).queue = [] then .idle else .draining }
    else none := by
  obtain ⟨old, hold⟩ := Option.ne_none_iff_exists'.mp hs
  rw [drain]
  generalize drainQueue s.transport c.queue = d
  obtain ⟨queue, t, failure, calls⟩ := d
  cases failure with
  | none => cases queue <;> simp [modify, hold]
  | some e => simp [modify, remove, hold]

theorem transport_drain_of_works (hs : s.transport? ≠ none)
    (hnone : (drainQueue s.transport c.queue).failure = none) :
    (s.drain c).transport = (drainQueue s.transport c.queue).transport := by
  obtain ⟨old, hold⟩ := Option.ne_none_iff_exists'.mp hs
  rw [drain]
  generalize drainQueue s.transport c.queue = d at hnone ⊢
  rw [hnone]
  simp [modify, transport, hold]

theorem transport_drain (hs : s.client? ≠ none) (h : (s.drain c).transport.isReady = true) :
    (drainQueue s.transport c.queue).failure = none ∧
      (s.drain c).transport = (drainQueue s.transport c.queue).transport := by
  obtain ⟨old, hold⟩ := Option.ne_none_iff_exists'.mp hs
  rw [drain] at h ⊢
  generalize drainQueue s.transport c.queue = d at h ⊢
  obtain ⟨queue, t, failure, calls⟩ := d
  cases htransport : s.transport? with
  | none =>
    cases failure <;>
      simp [modify, remove, transport, htransport, hold, Transport.isReady, Recorder.isReady] at h
  | some old' =>
    cases failure with
    | none => simp [modify, transport]
    | some e => simp [modify, remove, transport, htransport, hold, Transport.isReady_complete] at h

/-- What has become of a client whose queue was emptied. It is gone; or nothing waits and it is idle; or something
waits, it is draining, and its transport is not ready. -/
theorem drain_outcome (c : Client) (hs : s.client? ≠ none) : (s.drain c).client? = none ∨
    ∃ c', (s.drain c).client? = some c' ∧ (c'.queue = [] ∧ c'.state = .idle ∨
      c'.queue ≠ [] ∧ c'.state = .draining ∧ (s.drain c).transport.isReady = false) := by
  have hclient := client?_drain (c := c) hs
  have hready := transport_drain (c := c) hs
  have hstops := (stops_drainQueue s.transport c.queue).rest
  generalize drainQueue s.transport c.queue = d at hclient hready hstops
  by_cases hnone : d.failure = none
  · right
    rw [if_pos hnone] at hclient
    refine ⟨_, hclient, ?_⟩
    by_cases hqueue : d.queue = []
    · exact .inl ⟨hqueue, if_pos hqueue⟩
    · refine .inr ⟨hqueue, if_neg hqueue, ?_⟩
      have hstalled : d.transport.isReady = false := (hstops hnone).resolve_left hqueue
      -- A transport that is ready now was ready when the emptying stopped, so there was no reason to stop.
      by_contra hnot
      rw [Bool.not_eq_false] at hnot
      obtain ⟨-, htransport⟩ := hready hnot
      rw [htransport, hstalled] at hnot
      cases hnot
  · left
    rwa [if_neg hnone] at hclient

end Seat

end Sentinel
