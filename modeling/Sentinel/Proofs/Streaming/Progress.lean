import Sentinel.Proofs.Streaming.Course
import Sentinel.Proofs.Streaming.Draining
import Sentinel.Proofs.Streaming.Isolation
import Sentinel.Proofs.Streaming.Ledger
/-!
# What the state of a client says

A client is open until something reaches it: a broadcast, or the word that its transport is ready again.
Then its queue is emptied as far as the transport takes it, and its state says whether anything is left.
The state is kept by itself, beside the queue, and nobody looks at the transport when it is asked for;
that it tells the truth all the same is what is shown here.

1. `seat_act_of_reaches`, `seat_act_of_not_reaches`: what an operation is to a client that is known.
2. `stage_foldl`: how a client stands after a row of operations.
3. `tells_history`: what the state of a client says.
4. `written_of_reaches`, `flushed_of_reaches`: what a client is written that is reached.
5. `state_tells_progress`: all of this, and the course of a client.
-/

namespace Sentinel

/-! ## What reaches a client -/

namespace ClientOperation

/-- The operation reaches a client: it broadcasts, or says that the client can be written to. -/
def Reaches (k : ClientId) : ClientOperation → Prop
  | broadcast _ _ => True
  | writable id => id = k
  | _ => False

/-- What the operation does to a transport from outside. -/
def outside (u : TransportId) : ClientOperation → Transport → Transport
  | change v f => if v = u then f else id
  | _ => id

theorem not_isJoin_of_reaches {k : ClientId} {op : ClientOperation} (h : op.Reaches k) : ¬op.IsJoin := by
  cases op with
  | join u => cases h
  | _ => exact id

end ClientOperation

namespace Live

variable {l : Live} {k : ClientId} {op : ClientOperation}

/-- A client that is reached gets what is broadcast, and its queue is emptied into its transport. -/
theorem seat_act_of_reaches (h : l.IsSound) (hop : op.Reaches k) {c : Client} (hc : l.registry.find? k = some c) :
    (l.act op).seat k = (l.seat k).drain { c with queue := c.queue ++ op.heard } ∧
      (l.act op).connections.callsFor k =
        l.connections.callsFor k ++ (drainQueue (l.seat k).transport (c.queue ++ op.heard)).allCalls := by
  have hclient : (l.seat k).client? = some c := hc
  have hjoin := ClientOperation.not_isJoin_of_reaches hop
  have hcalls := callsFor_act h hjoin k
  have hseat := (seat_act h hjoin).2.2 k
  cases op with
  | broadcast order e =>
    rw [hseat, hcalls]
    simp [ClientOperation.own?, ClientOperation.heard, Seat.own, Seat.deliver, Seat.calls, hclient]
  | writable id =>
    obtain rfl : id = k := hop
    rw [hseat, hcalls]
    simp [ClientOperation.own?, ClientOperation.heard, Seat.own, Seat.onWritable, Seat.calls, hclient]
  | connect t | join u | remove id reason | closeAll order | change u f => cases hop

/-- An operation that does not reach a client takes it away, or calls nothing for it and does nothing but
change its transport from outside. -/
theorem seat_act_of_not_reaches (h : l.IsSound) (hjoin : ¬op.IsJoin) (hop : ¬op.Reaches k)
    (hk : k < l.connections.issued) : ((l.act op).seat k).client? = none ∨
      ((l.act op).seat k).client? = (l.seat k).client? ∧
        ((l.act op).seat k).transport? = (l.seat k).transport?.map (op.outside k) ∧
        (l.act op).connections.callsFor k = l.connections.callsFor k := by
  have hcalls := callsFor_act h hjoin k
  have hseat := (seat_act h hjoin).2.2 k
  have hnew : k ≠ l.connections.issued := Nat.ne_of_lt hk
  rw [hseat, hcalls]
  cases op with
  | connect t => simp [ClientOperation.own?, ClientOperation.outside, hnew]
  | join u => exact absurd trivial hjoin
  | broadcast order e => exact absurd trivial hop
  | writable id =>
    have hne : k ≠ id := fun heq => hop heq.symm
    simp [ClientOperation.own?, ClientOperation.outside, hne]
  | remove id reason =>
    by_cases hid : k = id
    · left
      simp [ClientOperation.own?, Seat.own, hid]
    · simp [ClientOperation.own?, ClientOperation.outside, hid]
  | closeAll order =>
    left
    simp [ClientOperation.own?, Seat.own]
  | change u f =>
    by_cases hu : k = u
    · simp [ClientOperation.own?, ClientOperation.outside, Seat.own, Seat.modify, Seat.calls, hu]
    · simp [ClientOperation.own?, ClientOperation.outside, hu, Ne.symm hu]

/-! ## Rows of operations -/

/-- How a client stands that was registered on a transport, after a row of operations. It is gone; or nothing
has reached it, nothing was called for it, and its transport is the one that it came with but for changes
from outside; or something has reached it, and after the last time nothing was left in its queue, or something
was and its transport was not ready. -/
inductive Stage (l : Live) (k : ClientId) (t : Transport) (after : List ClientOperation) : Prop
  | gone (hclient : (after.foldl act l).registry.find? k = none)
  | waits (hquiet : ∀ op ∈ after, ¬op.Reaches k)
    (hclient : (after.foldl act l).registry.find? k = some ⟨k, k, [], .opened⟩)
    (hcalls : (after.foldl act l).connections.callsFor k = l.connections.callsFor k)
    (htransport : (after.foldl act l).connections.transports[k]? =
      some (after.foldl (fun t op => op.outside k t) t))
  | served {c : Client} {middle : List ClientOperation} {op : ClientOperation} {rest : List ClientOperation}
    (hsplit : after = middle ++ op :: rest) (hop : op.Reaches k) (hrest : ∀ o ∈ rest, ¬o.Reaches k)
    (hclient : (after.foldl act l).registry.find? k = some c)
    (hstate : c.queue = [] ∧ c.state = .idle ∨ c.queue ≠ [] ∧ c.state = .draining ∧
      (((middle ++ [op]).foldl act l).connections.get k).isReady = false)

theorem Stage.reached {t : Transport} {after : List ClientOperation} {c : Client}
    (hsound : (after.foldl act l).IsSound) (hop : op.Reaches k)
    (hfind : (after.foldl act l).registry.find? k = some c) : l.Stage k t (after ++ [op]) := by
  have hlast : (after ++ [op]).foldl act l = (after.foldl act l).act op := by simp
  have hthere : ((after.foldl act l).seat k).client? ≠ none :=
    fun hnone => Option.some_ne_none c (hfind.symm.trans hnone)
  obtain ⟨hdrain, -⟩ := seat_act_of_reaches hsound hop hfind
  have houtcome := Seat.drain_outcome { c with queue := c.queue ++ op.heard } hthere
  rw [← hdrain, ← hlast] at houtcome
  rcases houtcome with hnone | ⟨c', hclient, hstate⟩
  · exact .gone hnone
  · exact .served rfl hop (by simp) hclient hstate

/-- One operation more. -/
theorem Stage.step {t : Transport} {after : List ClientOperation} (h : l.Stage k t after)
    (hsound : (after.foldl act l).IsSound) (hk : k < (after.foldl act l).connections.issued)
    (hjoin : ¬op.IsJoin) : l.Stage k t (after ++ [op]) := by
  have hlast : (after ++ [op]).foldl act l = (after.foldl act l).act op := by simp
  have hgone (hnone : (after.foldl act l).registry.find? k = none) : l.Stage k t (after ++ [op]) := by
    have hsame := (step_act hsound.isProper hk op).1.eq_of_gone hnone
    refine .gone ?_
    rw [hlast]
    exact (congrArg Account.client? hsame).trans hnone
  by_cases hop : op.Reaches k
  · -- Whatever came before, the client is drained now, if it is there.
    cases hfind : (after.foldl act l).registry.find? k with
    | none => exact hgone hfind
    | some c => exact .reached hsound hop hfind
  · rcases seat_act_of_not_reaches hsound hjoin hop hk with hnone | ⟨hclient, htransport, hcalls⟩
    · refine .gone ?_
      rw [hlast]
      exact hnone
    · -- The client is as it was before.
      rw [← hlast] at hclient htransport hcalls
      cases h with
      | gone hnone => exact hgone hnone
      | waits hquiet hwaits hnothing hgiven =>
        refine .waits ?_ (hclient.trans hwaits) (hcalls.trans hnothing) ?_
        · simpa [or_imp, forall_and] using ⟨hquiet, hop⟩
        · refine htransport.trans ?_
          show (((after.foldl act l).connections.transports[k]?).map _) = _
          rw [hgiven, List.foldl_append]
          rfl
      | @served c middle o rest hsplit hreached hrest hserved hstate =>
        have hsplit : after ++ [op] = middle ++ o :: (rest ++ [op]) := by simp [hsplit]
        refine .served hsplit hreached ?_ (hclient.trans hserved) hstate
        simpa [or_imp, forall_and] using ⟨hrest, hop⟩

/-- A client that has just been registered on a transport of its own, and then a row of operations. -/
theorem stage_foldl {t : Transport} (hsound : l.IsSound) (hk : k < l.connections.issued)
    (hclient : l.registry.find? k = some ⟨k, k, [], .opened⟩) (ht : l.connections.transports[k]? = some t)
    {after : List ClientOperation} (hafter : ∀ op ∈ after, ¬op.IsJoin) : l.Stage k t after := by
  -- By induction from the end, with what is known of every state on the way.
  suffices hall : (after.foldl act l).IsSound ∧ k < (after.foldl act l).connections.issued ∧ l.Stage k t after from
    hall.2.2
  induction after using List.reverseRecOn with
  | nil => exact ⟨hsound, hk, .waits (by simp) hclient rfl ht⟩
  | append_singleton after op ih =>
    have hjoin : ¬op.IsJoin := hafter op (by simp)
    obtain ⟨hsound', hk', hstage⟩ := ih fun o ho => hafter o (List.mem_append_left _ ho)
    have hlast : (after ++ [op]).foldl act l = (after.foldl act l).act op := by simp
    rw [hlast]
    exact ⟨(seat_act hsound' hjoin).1, (step_act hsound'.isProper hk' op).2, hstage.step hsound' hk' hjoin⟩

/-! ## The truth of the states -/

/-- What the state of a client says that was registered on a transport, after a row of operations. It is open as
long as nothing has reached it, and then nothing waits, nothing was called for it, and its transport is the one
that it came with but for changes from outside; it is idle if something has reached it and nothing waits; and
draining if something waits, and then its transport was not ready when its queue was emptied last. -/
structure Tells (before : List ClientOperation) (t : Transport) (after : List ClientOperation) (k : ClientId)
    (l : Live) : Prop where
  opened : l.registry.state? k = some .opened ↔ ∀ op ∈ after, ¬op.Reaches k
  untouched : l.registry.state? k = some .opened → l.registry.pending? k = some 0 ∧
    l.connections.callsFor k = [] ∧
    l.connections.transports[k]? = some (after.foldl (fun t op => op.outside k t) t)
  idle : l.registry.state? k = some .idle ↔ (∃ op ∈ after, op.Reaches k) ∧ l.registry.pending? k = some 0
  draining : l.registry.state? k = some .draining ↔ ∃ n, l.registry.pending? k = some (n + 1)
  stalled : l.registry.state? k = some .draining → ∃ middle op rest, after = middle ++ op :: rest ∧
    op.Reaches k ∧ (∀ o ∈ rest, ¬o.Reaches k) ∧
    ((history (before ++ .connect t :: (middle ++ [op]))).connections.get k).isReady = false

theorem tells_of_stage {before after : List ClientOperation} {t : Transport}
    (hvacant : ((history before).act (.connect t)).connections.callsFor k = [])
    (h : ((history before).act (.connect t)).Stage k t after)
    (hthere : (history (before ++ .connect t :: after)).registry.find? k ≠ none) :
    Tells before t after k (history (before ++ .connect t :: after)) := by
  have hhistory (ops : List ClientOperation) :
      history (before ++ .connect t :: ops) = ops.foldl act ((history before).act (.connect t)) := by
    rw [history_append, List.foldl_cons]
  rw [hhistory] at hthere ⊢
  cases h with
  | gone hclient => exact absurd hclient hthere
  | waits hquiet hclient hcalls htransport =>
    have hstate : (after.foldl act ((history before).act (.connect t))).registry.state? k = some .opened := by
      simp [Registry.state?, hclient]
    have hpending : (after.foldl act ((history before).act (.connect t))).registry.pending? k = some 0 := by
      simp [Registry.pending?, hclient]
    refine ⟨?_, ?_, ?_, ?_, ?_⟩ <;> rw [hstate]
    · simpa using hquiet
    · exact fun _ => ⟨hpending, hcalls.trans hvacant, htransport⟩
    · simpa using fun op hop hreach => absurd hreach (hquiet op hop)
    · simp [hpending]
    · simp
  | @served c middle op rest hsplit hop hrest hclient hstate =>
    have hstate' : (after.foldl act ((history before).act (.connect t))).registry.state? k = some c.state := by
      simp [Registry.state?, hclient]
    have hpending : (after.foldl act ((history before).act (.connect t))).registry.pending? k =
        some c.queue.length := by
      simp [Registry.pending?, hclient]
    have hmem : op ∈ after := by simp [hsplit]
    rcases hstate with ⟨hqueue, hidle⟩ | ⟨hqueue, hdraining, hstalled⟩
    · refine ⟨?_, ?_, ?_, ?_, ?_⟩ <;> simp only [hstate', hpending, hidle, hqueue]
      · simpa using ⟨op, hmem, hop⟩
      · simp
      · simpa using ⟨op, hmem, hop⟩
      · simp
      · simp
    · obtain ⟨n, hn⟩ : ∃ n, c.queue.length = n + 1 :=
        Nat.exists_eq_succ_of_ne_zero fun hzero => hqueue (List.length_eq_zero_iff.mp hzero)
      refine ⟨?_, ?_, ?_, ?_, ?_⟩ <;> simp only [hstate', hpending, hdraining, hn]
      · simpa using ⟨op, hmem, hop⟩
      · simp
      · simp
      · simp
      · intro _
        exact ⟨middle, op, rest, hsplit, hop, hrest, by rw [hhistory]; exact hstalled⟩

/-- The client that comes with an operation of a history in which nobody shares a transport. -/
theorem exists_connects {ops : List ClientOperation} (hops : ∀ op ∈ ops, ¬op.IsJoin)
    (hk : k < (history ops).connections.issued) : ∃ before t after, ops = before ++ .connect t :: after ∧
      k = (history before).connections.issued := by
  obtain ⟨before, op, after, rfl, hfirst⟩ := exists_registers ops hk
  have hsound := (seat_foldl_act isSound_empty (fun o ho => hops o (List.mem_append_left _ ho)) 0).1
  have hissued := (seat_act hsound (hops op (by simp))).2.1
  have hnext : op.next (history before).connections.issued = k + 1 := hissued.symm.trans hfirst.issued
  rw [← hfirst.next] at hnext
  -- Only an operation with which a client comes gives out a number.
  cases op with
  | connect t => exact ⟨before, t, after, rfl, hfirst.next⟩
  | join u | broadcast order e | writable id | remove id reason | closeAll order | change u f =>
    exact absurd hnext.symm (Nat.succ_ne_self k)

theorem tells_history {before after : List ClientOperation} {t : Transport}
    (hops : ∀ op ∈ before ++ .connect t :: after, ¬op.IsJoin)
    (hk : k = (history before).connections.issued)
    (hthere : (history (before ++ .connect t :: after)).registry.find? k ≠ none) :
    Tells before t after k (history (before ++ .connect t :: after)) := by
  have hbefore : (history before).IsSound :=
    (seat_foldl_act isSound_empty (fun o ho => hops o (List.mem_append_left _ ho)) 0).1
  obtain ⟨hsound, hissued, hseat⟩ := seat_connect hbefore t
  have hopened : ((history before).connect t).2.seat k = ((history before).seat k).opened k t := by
    rw [hseat, if_pos hk]
  have hvacant : (history before).connections.callsFor k = [] :=
    congrArg Account.calls (account_history_of_le before k (Nat.le_of_eq hk.symm))
  refine tells_of_stage hvacant (stage_foldl hsound ?_ ?_ ?_ ?_) hthere
  · rw [hissued, hk]
    exact Nat.lt_succ_self _
  · exact congrArg Seat.client? hopened
  · exact congrArg Seat.transport? hopened
  · intro op hop
    exact hops op (by simp [hop])

theorem written_of_reaches (h : l.IsSound) (hop : op.Reaches k) {c : Client} (hc : l.registry.find? k = some c)
    {r : Recorder} (hr : l.connections.get k = .recorder r) (hsteady : r.IsSteady) (hready : r.ready = true)
    (hopen : r.completed = false) (hworks : r.failing = false) :
    let q := c.queue ++ op.heard
    let n := min (r.budget.getD q.length) q.length
    (l.act op).registry.pending? k = some (q.length - n) ∧
      ∃ r', (l.act op).connections.get k = .recorder r' ∧
        r'.written = r.written ++ (q.take n).map StreamEvent.wire := by
  intro q n
  obtain ⟨hdrain, -⟩ := seat_act_of_reaches h hop hc
  have htransport : (l.seat k).transport = .recorder r := hr
  have hthere : (l.seat k).client? ≠ none := fun hnone => Option.some_ne_none c (hc.symm.trans hnone)
  obtain ⟨hnone, hqueue, r', hleft, hwritten⟩ := drainQueue_budget q hsteady hready hopen hworks
  have hclient := Seat.client?_drain (c := { c with queue := q }) hthere
  rw [← hdrain, htransport, if_pos hnone, hqueue] at hclient
  have hfind : (l.act op).registry.find? k = _ := hclient
  -- Where there is no transport, one that is ended is seen in its place, and the recorder is not ended.
  have hgiven : (l.seat k).transport? ≠ none := by
    intro hnothing
    rw [Seat.transport, hnothing] at htransport
    cases htransport
    cases hopen
  refine ⟨by simp [Registry.pending?, hfind, n], r', ?_, hwritten⟩
  rw [← htransport] at hnone hleft
  show ((l.act op).seat k).transport = _
  rw [hdrain, Seat.transport_drain_of_works (c := { c with queue := q }) hgiven hnone, hleft]

theorem flushed_of_reaches (h : l.IsSound) (hop : op.Reaches k) {c : Client} (hc : l.registry.find? k = some c)
    (hready : ((l.act op).connections.get k).isReady = true) :
    (l.act op).registry.pending? k = some 0 ∧
      ∃ calls, (l.act op).connections.callsFor k = l.connections.callsFor k ++ calls ++ [.flush none] := by
  obtain ⟨hdrain, hcalls⟩ := seat_act_of_reaches h hop hc
  have hthere : (l.seat k).client? ≠ none := fun hnone => Option.some_ne_none c (hc.symm.trans hnone)
  have hready' : ((l.seat k).drain { c with queue := c.queue ++ op.heard }).transport.isReady = true :=
    hdrain ▸ hready
  obtain ⟨hnone, htransport⟩ := Seat.transport_drain hthere hready'
  have hclient := Seat.client?_drain (c := { c with queue := c.queue ++ op.heard }) hthere
  have hstops := stops_drainQueue (l.seat k).transport (c.queue ++ op.heard)
  rw [htransport] at hready'
  rw [← hdrain, if_pos hnone] at hclient
  have hfind : (l.act op).registry.find? k = _ := hclient
  have hempty := (hstops.rest hnone).resolve_right (by simpa using hready')
  obtain ⟨calls, hlast⟩ := List.getLast?_eq_some_iff.mp (hstops.flushed hnone hready')
  refine ⟨by simp [Registry.pending?, hfind, hempty], calls, ?_⟩
  rw [hcalls, Drained.allCalls, hnone, hlast]
  simp

/-- The states of clients tell the truth, where each client has a transport of its own, whatever is asked of the
registry in which order, whatever the transports do, and whatever happens to them from outside. What the state
of a registered client says is so. A broadcast, or the word that a client can be written to, writes it
exactly as many of the waiting events as its budget allows, if its recorder is set to be ready, is not ended
and does not fail; and if the transport is ready then, nothing waits and all that was written was passed on.
And in any history the states that are observed of a client are those of its course, from open to draining
and idle by turns until it is gone; no client is ever seen closed. -/
theorem state_tells_progress :
    (∀ ops : List ClientOperation, (∀ op ∈ ops, ¬op.IsJoin) → ∀ c ∈ (history ops).registry.clients,
      ∃ before t after, ops = before ++ .connect t :: after ∧ c.id = (history before).connections.issued ∧
        Tells before t after c.id (history ops)) ∧
    (∀ ops : List ClientOperation, (∀ op ∈ ops, ¬op.IsJoin) → ∀ (op : ClientOperation) (k : ClientId) (c : Client),
      op.Reaches k → (history ops).registry.find? k = some c →
      let l := history ops
      let l' := l.act op
      let q := c.queue ++ op.heard
      (∀ r : Recorder, l.connections.get k = .recorder r → r.IsSteady → r.ready = true → r.completed = false →
        r.failing = false →
        let n := min (r.budget.getD q.length) q.length
        l'.registry.pending? k = some (q.length - n) ∧ ∃ r', l'.connections.get k = .recorder r' ∧
          r'.written = r.written ++ (q.take n).map StreamEvent.wire) ∧
      ((l'.connections.get k).isReady = true → l'.registry.pending? k = some 0 ∧
        ∃ calls, l'.connections.callsFor k = l.connections.callsFor k ++ calls ++ [.flush none])) ∧
    ∀ (ops : List ClientOperation) (k : ClientId), IsCourse (observed k empty ops) := by
  refine ⟨?_, ?_, ?_⟩
  · intro ops hops c hc
    have hsound : (history ops).IsSound := (seat_foldl_act isSound_empty hops 0).1
    obtain ⟨before, t, after, rfl, hk⟩ := exists_connects hops (hsound.known c hc)
    have hthere : (history (before ++ .connect t :: after)).registry.find? c.id ≠ none := by
      rw [(find?_eq_some_iff hsound).mpr hc]
      exact Option.some_ne_none c
    exact ⟨before, t, after, rfl, hk, tells_history hops hk hthere⟩
  · intro ops hops op k c hop hc l l' q
    have hsound : (history ops).IsSound := (seat_foldl_act isSound_empty hops 0).1
    refine ⟨?_, fun hready => flushed_of_reaches hsound hop hc hready⟩
    intro r hr hsteady hready hopen hworks
    exact written_of_reaches hsound hop hc hr hsteady hready hopen hworks
  · intro ops k
    exact course_observed isSound_empty.isProper (Nat.zero_le k) ops

/-- A client that takes one of two events, and is then let write as much as it likes. -/
def relieved : List ClientOperation :=
  [.connect (.recorder { budget := some 1 }), .broadcast .bySeniority ⟨"a", "1"⟩,
    .broadcast .bySeniority ⟨"b", "2"⟩, .change 0 fun _ => .recorder {}]

/-- Before anybody says that it can be written to, it is still draining; then it is written what waits. -/
theorem state_tells_progress_relieved :
    (∃ before t after, relieved = before ++ .connect t :: after ∧ Tells before t after 0 (history relieved)) ∧
      (history relieved).registry.state? 0 = some .draining ∧
      ((history relieved).act (.writable 0)).registry.pending? 0 = some 0 ∧
      (∃ r, ((history relieved).act (.writable 0)).connections.get 0 = .recorder r ∧
        r.written = [StreamEvent.wire ⟨"b", "2"⟩]) ∧
      IsCourse (observed 0 empty relieved) := by
  have hjoin : ∀ op ∈ relieved, ¬op.IsJoin := by simp [relieved, ClientOperation.IsJoin]
  let c : Client := ⟨0, 0, [⟨"b", "2"⟩], .draining⟩
  have hclients : (history relieved).registry.clients = [c] := by decide +kernel
  have hfind : (history relieved).registry.find? 0 = some c := by decide +kernel
  have hrecorder : (history relieved).connections.get 0 = .recorder {} := by decide +kernel
  have hreaches : (ClientOperation.writable 0).Reaches 0 := rfl
  obtain ⟨htells, hreached, hcourse⟩ := state_tells_progress
  obtain ⟨before, t, after, hsplit, -, hsays⟩ := htells relieved hjoin c (hclients ▸ List.mem_cons_self)
  obtain ⟨hwritten, -⟩ := hreached relieved hjoin (.writable 0) 0 c hreaches hfind
  obtain ⟨hpending, r, hr, hframes⟩ := hwritten {} hrecorder ⟨rfl, rfl⟩ rfl rfl rfl
  exact ⟨⟨before, t, after, hsplit, hsays⟩, by simp [Registry.state?, hfind, c], hpending, ⟨r, hr, hframes⟩,
    hcourse relieved 0⟩

end Live

end Sentinel
