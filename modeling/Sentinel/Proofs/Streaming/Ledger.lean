import Sentinel.Proofs.Streaming.Account
/-!
# Calls for a client

What is called for a client that shares its transport with nobody depends on the client and its transport
alone: who else is there, and who is visited first, does not matter for it.

1. `Seat.calls`: the calls with which an operation of its own is done for a client.
2. `callsFor_drain`, `callsFor_broadcastIn`, `callsFor_closeAllIn`: the calls of operations on one client and
   on all of them.
3. `callsFor_act`: the calls of any operation.
-/

namespace Sentinel

/-- The calls with which a queue is emptied. Once one has met with an error, the transport is ended. -/
def Drained.allCalls (d : Drained) : List TransportCall :=
  d.calls ++ if d.failure.isSome then [.complete] else []

namespace Seat

/-- The calls with which an operation of its own is done for a client, if there is one. -/
def calls (s : Seat) : OwnOperation → List TransportCall
  | .broadcast e => (s.client?.map fun c => (drainQueue s.transport (c.queue ++ [e])).allCalls).getD []
  | .writable => (s.client?.map fun c => (drainQueue s.transport c.queue).allCalls).getD []
  | .closeAll => (s.client?.map fun _ => [.complete]).getD []
  | .register _ | .remove _ | .change _ => []

end Seat

theorem Account.calls_remove (a : Account) (reason : ClosedReason) : (a.remove reason).calls = a.calls := by
  rw [Account.remove]
  split <;> rfl

theorem Account.calls_drain (a : Account) (c : Client) (d : Drained) :
    (a.drain c d).calls = a.calls ++ d.allCalls := by
  rw [Account.drain, Drained.allCalls]
  cases d.failure with
  | none => simp [Account.note]
  | some e => simp [Account.note, calls_remove]

namespace Live

variable {l : Live} {k : ClientId} {u : TransportId}

theorem callsFor_drain (l : Live) (c : Client) (k : ClientId) :
    (l.drain c).connections.callsFor k =
      if k = c.id then
        l.connections.callsFor k ++ (drainQueue (l.connections.get c.transport) c.queue).allCalls
      else l.connections.callsFor k := by
  have haccount := congrArg Account.calls (account_drain l c k)
  refine haccount.trans ?_
  split
  · exact Account.calls_drain _ _ _
  · rfl

theorem callsFor_shut (l : Live) (c : Client) (k : ClientId) :
    (l.shut c).connections.callsFor k =
      if k = c.id then l.connections.callsFor k ++ [.complete] else l.connections.callsFor k := by
  refine (congrArg Account.calls (account_shut l c k)).trans ?_
  split
  · exact congrArg (· ++ [.complete]) (Account.calls_remove _ _)
  · rfl

/-- A client with a transport of its own is emptied into this transport. -/
theorem get_transport (h : l.Alone k u) {c : Client} (hc : l.registry.find? k = some c) :
    c.id = k ∧ l.connections.get c.transport = (l.place k u).transport := by
  have hid := Registry.id_of_find? hc
  have htransport : c.transport = u := (h.alone c (List.mem_of_find?_eq_some hc)).mp hid
  refine ⟨hid, ?_⟩
  rw [htransport]
  rfl

theorem callsFor_deliver (h : l.Alone k u) (e : StreamEvent) (id : ClientId) :
    (l.deliver e id).connections.callsFor k =
      if k = id then l.connections.callsFor k ++ (l.place k u).calls (.broadcast e)
      else l.connections.callsFor k := by
  have hclient : (l.place k u).client? = l.registry.find? k := rfl
  by_cases hk : k = id
  · subst hk
    rw [if_pos rfl, deliver, Seat.calls, hclient]
    cases hc : l.registry.find? k with
    | none => simp
    | some c =>
      obtain ⟨hid, htransport⟩ := get_transport h hc
      simp [callsFor_drain, hid, htransport]
  · rw [if_neg hk]
    exact congrArg Account.calls (account_deliver (.inr hk) e)

theorem callsFor_onWritable (h : l.Alone k u) (id : ClientId) :
    (l.onWritable id).connections.callsFor k =
      if k = id then l.connections.callsFor k ++ (l.place k u).calls .writable
      else l.connections.callsFor k := by
  have hclient : (l.place k u).client? = l.registry.find? k := rfl
  by_cases hk : k = id
  · subst hk
    rw [if_pos rfl, onWritable, Seat.calls, hclient]
    cases hc : l.registry.find? k with
    | none => simp
    | some c =>
      obtain ⟨hid, htransport⟩ := get_transport h hc
      simp [callsFor_drain, hid, htransport]
  · rw [if_neg hk, onWritable]
    cases hc : l.registry.find? id with
    | none => rfl
    | some c =>
      have hne : k ≠ c.id := fun heq => hk (heq.trans (Registry.id_of_find? hc))
      simp [callsFor_drain, hne]

theorem callsFor_broadcastIn (h : l.Alone k u) (order : VisitingOrder) (e : StreamEvent) :
    (l.broadcastIn order e).2.connections.callsFor k =
      l.connections.callsFor k ++ (l.place k u).calls (.broadcast e) := by
  let counted : Live :=
    { l with registry := { l.registry with broadcasts := l.registry.broadcasts + 1 } }
  have hcounted : counted.Alone k u := h.keeps ⟨List.Sublist.refl _, rfl, rfl⟩
  have hperm : List.Perm (((order.visit l.registry.clients).map (·.id)).map id)
      (counted.registry.clients.map (·.id)) := by
    rw [List.map_id]
    exact (order.perm l.registry.clients).map _
  -- What is called at the turn of the client is told by its seat, which is as it was before the first turn.
  obtain ⟨-, hvisited⟩ := hcounted.visited
    (f := fun seen : Seat × List TransportCall => (seen.1.deliver e, seen.2 ++ seen.1.calls (.broadcast e)))
    (deliver e) (fun l => (l.place k u, l.connections.callsFor k)) hperm (by
      intro l hl id _
      obtain ⟨hkeeps, hplace⟩ := hl.single fun t ht => acts_deliver ht e
      refine ⟨hkeeps, ?_⟩
      rw [hplace, callsFor_deliver hl e id]
      by_cases hk : k = id <;> simp [hk])
  refine (congrArg Prod.snd hvisited).trans ?_
  have hclient : (counted.place k u).client? = (l.place k u).client? := rfl
  split
  · next hnone =>
    rw [hclient] at hnone
    simp [Seat.calls, hnone, counted]
  · rfl

theorem callsFor_closeAllIn (h : l.Alone k u) (order : VisitingOrder) :
    (l.closeAllIn order).connections.callsFor k =
      l.connections.callsFor k ++ (l.place k u).calls .closeAll := by
  have hperm := order.perm l.registry.clients
  obtain ⟨-, hvisited⟩ := h.visited (f := fun calls => calls ++ [.complete])
    shut (·.connections.callsFor k) (hperm.map Client.id) fun l' hl' c hc =>
      ⟨(place_shut hl' (h.alone c (hperm.mem_iff.mp hc))).1, callsFor_shut l' c k⟩
  refine hvisited.trans ?_
  rw [Seat.calls]
  cases (l.place k u).client? <;> simp

/-- An operation calls for a client what the operation of its own that it means to it calls. -/
theorem callsFor_act (h : l.IsSound) {op : ClientOperation} (hop : ¬op.IsJoin) (k : ClientId) :
    (l.act op).connections.callsFor k =
      l.connections.callsFor k ++ ((op.own? k l.connections.issued).map (l.seat k).calls).getD [] := by
  cases op with
  | connect t =>
    have hsame : (l.act (.connect t)).connections.callsFor k = l.connections.callsFor k := rfl
    rw [hsame, ClientOperation.own?]
    split <;> simp [Seat.calls]
  | join u => exact absurd trivial hop
  | broadcast order e => exact callsFor_broadcastIn (h.alone k) order e
  | writable id =>
    rw [act, callsFor_onWritable (h.alone k) id, ClientOperation.own?]
    split
    · rfl
    · simp
  | remove id reason =>
    have hcalls : ((l.remove id reason).2.account k).calls = l.connections.callsFor k := by
      rw [account_remove]
      split
      · exact Account.calls_remove _ _
      · rfl
    refine hcalls.trans ?_
    rw [ClientOperation.own?]
    split <;> simp [Seat.calls]
  | closeAll order => exact callsFor_closeAllIn (h.alone k) order
  | change u f =>
    have hsame : (l.act (.change u f)).connections.callsFor k = l.connections.callsFor k := rfl
    rw [hsame, ClientOperation.own?]
    split <;> simp [Seat.calls]

end Live

end Sentinel
