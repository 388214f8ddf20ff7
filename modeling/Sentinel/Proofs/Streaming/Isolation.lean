import Sentinel.Proofs.Streaming.Removal
/-!
# Clients by themselves

A client that shares its transport with nobody sees nothing of the others. What becomes of it depends on
what is asked of it and of its transport, and on what is broadcast; not on who else is there, on what the
others ask, on how their transports behave, or on who is visited first.

1. `seat_foldl_act`: a history does to the seat of a client what the operations of its own do to a seat by
   itself.
2. `Seat.anonymous_foldl_own`: they do the same whatever the number of the client is.
3. `client_isolated`: two histories that are the same for a client leave it the same, and no broadcast
   depends on the order in which it visits the clients.
-/

namespace Sentinel

/-- What a row of operations means to a client: all that is asked of other clients is left out, and so is
the order in which clients are visited. -/
def ownOperations (k : ClientId) : ClientId → List ClientOperation → List OwnOperation
  | _, [] => []
  | n, op :: ops =>
    match op.own? k n with
    | none => ownOperations k (op.next n) ops
    | some o => o :: ownOperations k (op.next n) ops

theorem ownOperations_prefix (k : ClientId) {n : ClientId} {before ops : List ClientOperation}
    (h : before <+: ops) : ownOperations k n before <+: ownOperations k n ops := by
  induction before generalizing n ops with
  | nil => exact List.nil_prefix
  | cons op before ih =>
    obtain ⟨rest, rfl⟩ := h
    have hrest := ih (n := op.next n) (List.prefix_append before rest)
    rw [List.cons_append, ownOperations, ownOperations]
    split
    · exact hrest
    · exact List.cons_prefix_cons.mpr ⟨rfl, hrest⟩

/-- Every part of what happens to a client is what happens to it up to some point. -/
theorem exists_ownOperations_eq {k n : ClientId} {ops : List ClientOperation} {own : List OwnOperation}
    (h : own <+: ownOperations k n ops) : ∃ before, before <+: ops ∧ ownOperations k n before = own := by
  induction ops generalizing n own with
  | nil => exact ⟨[], List.prefix_refl [], (List.prefix_nil.mp h).symm⟩
  | cons op ops ih =>
    rw [ownOperations] at h
    cases hop : op.own? k n with
    | none =>
      rw [hop] at h
      obtain ⟨before, hbefore, hown⟩ := ih h
      refine ⟨op :: before, List.cons_prefix_cons.mpr ⟨rfl, hbefore⟩, ?_⟩
      rw [ownOperations, hop]
      exact hown
    | some o =>
      rw [hop] at h
      cases own with
      | nil => exact ⟨[], List.nil_prefix, rfl⟩
      | cons o' own =>
        obtain ⟨rfl, hrest⟩ := List.cons_prefix_cons.mp h
        obtain ⟨before, hbefore, hown⟩ := ih hrest
        refine ⟨op :: before, List.cons_prefix_cons.mpr ⟨rfl, hbefore⟩, ?_⟩
        rw [ownOperations, hop]
        exact congrArg (o' :: ·) hown

/-! ## Seats without numbers -/

/-- The client without its number and that of its transport. -/
def Client.anonymous (c : Client) : Client := { c with id := 0, transport := 0 }

namespace Seat

/-- The seat of a client without its number. -/
def anonymous (s : Seat) : Seat := { s with client? := s.client?.map Client.anonymous }

theorem anonymous_remove (s : Seat) (reason : ClosedReason) :
    (s.remove reason).anonymous = s.anonymous.remove reason := by
  obtain ⟨client?, transport?, closings⟩ := s
  cases client? <;> rfl

theorem anonymous_drain (s : Seat) (c : Client) :
    (s.drain c).anonymous = s.anonymous.drain c.anonymous := by
  have htransport : s.anonymous.transport = s.transport := rfl
  have hqueue : c.anonymous.queue = c.queue := rfl
  rw [drain, drain, htransport, hqueue]
  generalize drainQueue s.transport c.queue = d
  obtain ⟨client?, transport?, closings⟩ := s
  obtain ⟨queue, t, failure, calls⟩ := d
  cases failure <;> cases client? <;> rfl

theorem anonymous_own (s : Seat) (k : ClientId) (op : OwnOperation) :
    (s.own k op).anonymous = s.anonymous.own 0 op := by
  obtain ⟨client?, transport?, closings⟩ := s
  cases op with
  | register t => rfl
  | broadcast e =>
    cases client? with
    | none => rfl
    | some c => exact anonymous_drain _ _
  | writable =>
    cases client? with
    | none => rfl
    | some c => exact anonymous_drain _ _
  | remove reason => exact anonymous_remove _ _
  | closeAll => cases client? <;> rfl
  | change f => rfl

theorem anonymous_foldl_own (s : Seat) (k : ClientId) (own : List OwnOperation) :
    (own.foldl (Seat.own k) s).anonymous = own.foldl (Seat.own 0) s.anonymous := by
  induction own generalizing s with
  | nil => rfl
  | cons op own ih => rw [List.foldl_cons, List.foldl_cons, ih, anonymous_own]

end Seat

namespace Live

variable {l : Live}

/-- A row of operations does to a client what it means to it. -/
theorem seat_foldl_act (h : l.IsSound) {ops : List ClientOperation} (hops : ∀ op ∈ ops, ¬op.IsJoin)
    (k : ClientId) : (ops.foldl act l).IsSound ∧
      (ops.foldl act l).seat k = (ownOperations k l.connections.issued ops).foldl (Seat.own k) (l.seat k) := by
  induction ops generalizing l with
  | nil => exact ⟨h, rfl⟩
  | cons op ops ih =>
    obtain ⟨hsound, hissued, hseat⟩ := seat_act h (hops op List.mem_cons_self)
    obtain ⟨hrest, hseats⟩ := ih hsound fun op hop => hops op (List.mem_cons_of_mem _ hop)
    refine ⟨hrest, hseats.trans ?_⟩
    rw [hissued, hseat k, ownOperations]
    cases op.own? k l.connections.issued <;> rfl

theorem anonymous_seat_history {ops : List ClientOperation} (hops : ∀ op ∈ ops, ¬op.IsJoin)
    (k : ClientId) :
    ((history ops).seat k).anonymous =
      (ownOperations k 0 ops).foldl (Seat.own 0) ⟨none, none, []⟩ := by
  rw [history, (seat_foldl_act isSound_empty hops k).2, Seat.anonymous_foldl_own]
  rfl

/-- Two clients are in the same state: the same events wait for them, the delivery has come as far or both
are gone, the audit trails say the same of their ends, and their transports are the same, with all that
was written to them and whether they were ended. -/
structure Agrees (l l' : Live) (k k' : ClientId) : Prop where
  queue : (l.registry.find? k).map (·.queue) = (l'.registry.find? k').map (·.queue)
  state : l.registry.state? k = l'.registry.state? k'
  closings : l.trail.filterMap (AuditEvent.closing? k) = l'.trail.filterMap (AuditEvent.closing? k')
  transport : l.connections.transports[k]? = l'.connections.transports[k']?

theorem agrees_of_anonymous {l l' : Live} {k k' : ClientId}
    (h : (l.seat k).anonymous = (l'.seat k').anonymous) : l.Agrees l' k k' := by
  have hclient : (l.registry.find? k).map Client.anonymous = (l'.registry.find? k').map Client.anonymous :=
    congrArg Seat.client? h
  refine ⟨?_, ?_, congrArg Seat.closings h, congrArg Seat.transport? h⟩
  · have hqueue := congrArg (Option.map Client.queue) hclient
    rwa [Option.map_map, Option.map_map] at hqueue
  · have hstate := congrArg (Option.map Client.state) hclient
    rwa [Option.map_map, Option.map_map] at hstate

/-- The same happens to two clients of two histories. -/
theorem agrees_history {ops ops' : List ClientOperation} {k k' : ClientId}
    (hops : ∀ op ∈ ops, ¬op.IsJoin) (hops' : ∀ op ∈ ops', ¬op.IsJoin)
    (hsame : ownOperations k 0 ops = ownOperations k' 0 ops') :
    (history ops).Agrees (history ops') k k' := by
  refine agrees_of_anonymous ?_
  rw [anonymous_seat_history hops, anonymous_seat_history hops', hsame]

/-! ## The order in which clients are visited -/

theorem count_clientClosed (es : Trail) (k : ClientId) (reason : ClosedReason) (undelivered : Nat) :
    es.count (.clientClosed k reason undelivered) =
      (es.filterMap (AuditEvent.closing? k)).count (reason, undelivered) := by
  rw [List.count_filterMap, List.count_eq_countP]
  refine List.countP_congr fun e _ => ?_
  cases e <;> simp [AuditEvent.closing?]

/-- Entries on the ends of clients are known, up to their order, from what they say of each client. -/
theorem perm_of_closings {es es' : Trail} (hes : ∀ e ∈ es, e.kind = "client_closed")
    (hes' : ∀ e ∈ es', e.kind = "client_closed")
    (hsame : ∀ k, es.filterMap (AuditEvent.closing? k) = es'.filterMap (AuditEvent.closing? k)) :
    es.Perm es' := by
  refine List.perm_iff_count.mpr fun e => ?_
  by_cases he : e.kind = "client_closed"
  · cases e with
    | clientClosed k reason undelivered => rw [count_clientClosed, count_clientClosed, hsame]
    | _ => simp [AuditEvent.kind] at he
  · rw [List.count_eq_zero.mpr fun hmem => he (hes e hmem),
      List.count_eq_zero.mpr fun hmem => he (hes' e hmem)]

theorem broadcastIn_order (h : l.IsSound) (e : StreamEvent) (order order' : VisitingOrder) :
    (l.broadcastIn order e).1 = (l.broadcastIn order' e).1 ∧
      (∀ k, (l.broadcastIn order e).2.seat k = (l.broadcastIn order' e).2.seat k) ∧
      (l.broadcastIn order e).2.trail.Perm (l.broadcastIn order' e).2.trail := by
  have hcount (order : VisitingOrder) : (l.broadcastIn order e).1 = l.registry.clients.length := by
    show ((order.visit l.registry.clients).map (·.id)).length = _
    rw [List.length_map, (order.perm _).length_eq]
  have hseat (order : VisitingOrder) (k : ClientId) :
      (l.broadcastIn order e).2.seat k = (l.seat k).deliver e :=
    (place_broadcastIn (h.alone k) order e).2
  have hseats (k : ClientId) : (l.broadcastIn order e).2.seat k = (l.broadcastIn order' e).2.seat k := by
    rw [hseat, hseat]
  refine ⟨by rw [hcount, hcount], hseats, ?_⟩
  -- All that is recorded are ends of clients, and of each client the same is recorded.
  obtain ⟨es, htrail, hes, -⟩ := closes_broadcastIn h.isProper order e
  obtain ⟨es', htrail', hes', -⟩ := closes_broadcastIn h.isProper order' e
  rw [htrail, htrail']
  refine (perm_of_closings hes hes' fun k => ?_).append_left l.trail
  have hclosings : (l.broadcastIn order e).2.trail.filterMap (AuditEvent.closing? k) =
      (l.broadcastIn order' e).2.trail.filterMap (AuditEvent.closing? k) :=
    congrArg Seat.closings (hseats k)
  rw [htrail, htrail', List.filterMap_append, List.filterMap_append] at hclosings
  exact List.append_cancel_left hclosings

/-- Clients with transports of their own do not influence one another. Two histories in which the same
happens to a client, when all that concerns others is left out and clients may be visited in any order,
leave the client in the same state, at the end and wherever as much has happened to it; its number may
differ. And a broadcast reaches as many clients, does the same to each of them and records the same,
in whatever order it visits them. -/
theorem client_isolated :
    (∀ (ops ops' : List ClientOperation) (k k' : ClientId),
      (∀ op ∈ ops, ¬op.IsJoin) → (∀ op ∈ ops', ¬op.IsJoin) →
      ownOperations k 0 ops = ownOperations k' 0 ops' →
      (history ops).Agrees (history ops') k k' ∧
        ∀ before, before <+: ops → ∃ before', before' <+: ops' ∧
          ownOperations k 0 before = ownOperations k' 0 before' ∧
          (history before).Agrees (history before') k k') ∧
    ∀ (ops : List ClientOperation), (∀ op ∈ ops, ¬op.IsJoin) →
      ∀ (e : StreamEvent) (order order' : VisitingOrder),
        let (n, l) := (history ops).broadcastIn order e
        let (n', l') := (history ops).broadcastIn order' e
        n = n' ∧ (∀ k, l.seat k = l'.seat k) ∧ l.trail.Perm l'.trail := by
  refine ⟨fun ops ops' k k' hops hops' hsame => ⟨agrees_history hops hops' hsame, ?_⟩, ?_⟩
  · -- What has happened up to a point of one history is a part of what happens in the other one.
    intro before hbefore
    have hprefix := ownOperations_prefix k (n := 0) hbefore
    rw [hsame] at hprefix
    obtain ⟨before', hbefore', hown⟩ := exists_ownOperations_eq hprefix
    refine ⟨before', hbefore', hown.symm, agrees_history ?_ ?_ hown.symm⟩
    · exact fun op hop => hops op (hbefore.subset hop)
    · exact fun op hop => hops' op (hbefore'.subset hop)
  · intro ops hops e order order'
    exact broadcastIn_order (seat_foldl_act isSound_empty hops 0).1 e order order'

end Live

/-- Those who came last are visited first. -/
def VisitingOrder.byRecency : VisitingOrder := ⟨List.reverse, List.reverse_perm⟩

namespace Live

/-- A client by itself: it takes one event, and another one waits. -/
def lonely : List ClientOperation :=
  [.connect (.recorder { budget := some 1 }), .broadcast .bySeniority ⟨"t", "0"⟩,
    .broadcast .bySeniority ⟨"t", "1"⟩]

/-- The same among others, of whom one fails, one stalls and is removed, and all are visited first. -/
def amongOthers : List ClientOperation :=
  [.connect (.recorder { ready := false }), .connect (.recorder { budget := some 1 }),
    .connect (.recorder { failing := true }), .broadcast .byRecency ⟨"t", "0"⟩, .remove 0 .timeout,
    .change 0 Transport.complete, .broadcast .byRecency ⟨"t", "1"⟩, .writable 2]

theorem client_isolated_amongOthers :
    (history amongOthers).registry.pending? 1 = some 1 ∧
      (history amongOthers).connections.transports[1]? =
        some (.recorder { budget := some 0, flushes := 0, written := [StreamEvent.wire ⟨"t", "0"⟩] }) := by
  have hlonely : ∀ op ∈ lonely, ¬op.IsJoin := by simp [lonely, ClientOperation.IsJoin]
  have hothers : ∀ op ∈ amongOthers, ¬op.IsJoin := by simp [amongOthers, ClientOperation.IsJoin]
  obtain ⟨hagrees, -⟩ := client_isolated.1 lonely amongOthers 0 1 hlonely hothers rfl
  have hpending : (history lonely).registry.pending? 0 = some 1 := by decide +kernel
  have htransport : (history lonely).connections.transports[0]? =
      some (.recorder { budget := some 0, flushes := 0, written := [StreamEvent.wire ⟨"t", "0"⟩] }) := by
    decide +kernel
  refine ⟨?_, hagrees.transport.symm.trans htransport⟩
  have hqueue := congrArg (Option.map List.length) hagrees.queue
  rw [Option.map_map, Option.map_map] at hqueue
  exact hqueue.symm.trans hpending

end Live

end Sentinel
