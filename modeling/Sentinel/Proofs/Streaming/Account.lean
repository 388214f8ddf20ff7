import Sentinel.Proofs.Streaming.Calls
import Sentinel.Proofs.Streaming.History
/-!
# Accounts of streaming clients

What a service keeps of one client besides its transport: the client itself while it is registered, what
the audit trail says of its end, and what was called for it. Nothing here depends on how the transports
behave, nor on whether clients share one.

1. `account_remove`, `account_drain`: what the operations on one client do to its account, and that
   they do nothing to another one.
2. `account_foldl`: of operations on different clients one after the other, only one changes an account.
3. `Account.Step`, `account_act`: all that an operation can do to an account.
-/

namespace Sentinel

/-- What was called for a client. -/
def Connections.callsFor (c : Connections) (id : ClientId) : List TransportCall :=
  c.calls.filterMap fun call => if call.1 = id then some call.2 else none

theorem Connections.callsFor_note (c : Connections) (id k : ClientId) (calls : List TransportCall) :
    (c.note id calls).callsFor k = if k = id then c.callsFor k ++ calls else c.callsFor k := by
  have hnoted : (calls.map fun call => (id, call)).filterMap
      (fun call => if call.1 = k then some call.2 else none) = if k = id then calls else [] := by
    rw [List.filterMap_map]
    split
    · next hk => simp [hk]
    · next hk => simp [Ne.symm hk]
  rw [callsFor, note, List.filterMap_append, hnoted]
  split
  · rfl
  · exact List.append_nil _

/-- What is kept of one client besides its transport. -/
structure Account where
  client? : Option Client
  closings : List (ClosedReason × Nat)
  calls : List TransportCall

namespace Account

/-- The account of a client that never was. -/
def vacant : Account := ⟨none, [], []⟩

def note (calls : List TransportCall) (a : Account) : Account := { a with calls := a.calls ++ calls }

/-- Takes the client away, if there is one. -/
def remove (reason : ClosedReason) (a : Account) : Account :=
  match a.client? with
  | none => a
  | some c => { a with client? := none, closings := a.closings ++ [(reason, c.queue.length)] }

/-- Puts the client in its new state after its queue was emptied. A failure takes the client away. -/
def drain (c : Client) (d : Drained) (a : Account) : Account :=
  let state := if d.queue.isEmpty && d.failure.isNone then .idle else .draining
  let a := { a with client? := a.client?.map fun _ => { c with queue := d.queue, state } }.note d.calls
  match d.failure with
  | none => a
  | some _ => (a.remove .error).note [.complete]

end Account

namespace Live

/-- The account of a client. -/
def account (l : Live) (k : ClientId) : Account where
  client? := l.registry.find? k
  closings := l.trail.filterMap (AuditEvent.closing? k)
  calls := l.connections.callsFor k

variable {l : Live} {k id : ClientId}

/-! ## Operations on one client -/

theorem account_note (l : Live) (id k : ClientId) (calls : List TransportCall) :
    Live.account { l with connections := l.connections.note id calls } k =
      if k = id then (l.account k).note calls else l.account k := by
  rw [account]
  show Account.mk _ _ ((l.connections.note id calls).callsFor k) = _
  rw [Connections.callsFor_note]
  split <;> rfl

theorem account_complete (l : Live) (c : Client) (k : ClientId) :
    Live.account { l with connections := l.connections.complete c } k =
      if k = c.id then (l.account k).note [.complete] else l.account k :=
  account_note { l with connections := l.connections.modify c.transport Transport.complete } c.id k
    [.complete]

theorem account_update (l : Live) (c : Client) (k : ClientId) :
    Live.account { l with registry := l.registry.update c } k =
      if k = c.id then { l.account k with client? := (l.account k).client?.map fun _ => c }
      else l.account k := by
  rw [account]
  show Account.mk ((l.registry.update c).find? k) _ _ = _
  rw [Registry.find?_update]
  split <;> rfl

theorem account_remove (l : Live) (id k : ClientId) (reason : ClosedReason) :
    (l.remove id reason).2.account k =
      if k = id then (l.account k).remove reason else l.account k := by
  have hclient : (l.account k).client? = l.registry.find? k := rfl
  cases hc : l.registry.find? id with
  | none =>
    have hsame : (l.remove id reason).2 = l := by rw [remove, hc]
    rw [hsame]
    split
    · next hk => rw [Account.remove, hclient, hk, hc]
    · rfl
  | some c =>
    have hremoved : (l.remove id reason).2.account k =
        ⟨(l.registry.erase id).find? k,
          (l.trail ++ [AuditEvent.clientClosed id reason c.queue.length]).filterMap (AuditEvent.closing? k),
          l.connections.callsFor k⟩ := by
      rw [remove, hc]
      rfl
    rw [hremoved, Registry.find?_erase, AuditEvent.closings_append]
    split
    · next hk =>
      rw [Account.remove, hclient, hk, hc]
      rfl
    · rw [List.append_nil]
      rfl

theorem account_drain (l : Live) (c : Client) (k : ClientId) :
    (l.drain c).account k =
      if k = c.id then
        (l.account k).drain c (drainQueue (l.connections.get c.transport) c.queue)
      else l.account k := by
  rw [drain]
  generalize drainQueue (l.connections.get c.transport) c.queue = d
  obtain ⟨queue, written, failure, calls⟩ := d
  -- Up to the failure, if there is one; what it does then are a removal and an end.
  let c' : Client := { c with queue, state := if queue.isEmpty && failure.isNone then .idle else .draining }
  let updated : Live := { l with registry := l.registry.update c' }
  let written : Live :=
    { updated with connections := updated.connections.modify c.transport fun _ => written }
  let noted : Live := { written with connections := written.connections.note c.id calls }
  have hnoted : noted.account k =
      if k = c.id then
        { l.account k with client? := (l.account k).client?.map fun _ => c' }.note calls
      else l.account k := by
    have hupdated : written.account k = _ := account_update l c' k
    rw [account_note, hupdated]
    split <;> rfl
  cases failure with
  | none => exact hnoted
  | some e =>
    refine (account_complete (noted.remove c.id .error).2 c k).trans ?_
    rw [account_remove, hnoted]
    split <;> rfl

theorem account_deliver (hc : l.registry.find? id = none ∨ k ≠ id) (e : StreamEvent) :
    (l.deliver e id).account k = l.account k := by
  rw [deliver]
  cases hfind : l.registry.find? id with
  | none => rfl
  | some c =>
    have hk : k ≠ id := hc.resolve_left (by simp [hfind])
    obtain rfl : c.id = id := Registry.id_of_find? hfind
    exact (account_drain l _ k).trans (if_neg hk)

theorem account_shut (l : Live) (c : Client) (k : ClientId) : (l.shut c).account k =
    if k = c.id then ((l.account k).remove .shutdown).note [.complete] else l.account k := by
  refine (account_complete (l.remove c.id .shutdown).2 c k).trans ?_
  rw [account_remove]
  split <;> rfl

theorem account_register (h : l.IsProper) (u : TransportId) (k : ClientId) :
    (l.register u).2.account k =
      if k = l.connections.issued then { l.account k with client? := some ⟨k, u, [], .opened⟩ }
      else l.account k := by
  rw [account, find?_register h, closings_register]
  split <;> rfl

/-! ## Operations on all clients -/

/-- Operations on different numbers, one after the other: only the one on a client's own number changes
its account. -/
theorem account_foldl {α : Type} {f : Live → α → Live} {number : α → ClientId} {xs : List α}
    (hdistinct : (xs.map number).Nodup)
    (hf : ∀ (l : Live), ∀ x ∈ xs, k ≠ number x → (f l x).account k = l.account k) :
    (k ∉ xs.map number → (xs.foldl f l).account k = l.account k) ∧
      ∀ x ∈ xs, k = number x →
        ∃ l' : Live, l'.account k = l.account k ∧ (xs.foldl f l).account k = (f l' x).account k := by
  -- By induction on the row. The one operation on the client finds its account as it was at first, and
  -- none behind it changes it again.
  induction xs generalizing l with
  | nil => exact ⟨fun _ => rfl, fun x hx => absurd hx List.not_mem_nil⟩
  | cons y ys ih =>
    rw [List.map_cons, List.nodup_cons] at hdistinct
    have hrest (l : Live) := ih (l := l) hdistinct.2 fun l x hx => hf l x (List.mem_cons_of_mem y hx)
    refine ⟨fun hk => ?_, fun x hx hk => ?_⟩
    · rw [List.map_cons, List.mem_cons, not_or] at hk
      exact ((hrest (f l y)).1 hk.2).trans (hf l y List.mem_cons_self hk.1)
    · rcases List.mem_cons.mp hx with rfl | hx
      · exact ⟨l, rfl, (hrest (f l x)).1 (hk ▸ hdistinct.1)⟩
      · have hy : k ≠ number y := fun hy => hdistinct.1 (hy ▸ hk ▸ List.mem_map_of_mem hx)
        obtain ⟨l', hsame, hvisit⟩ := (hrest (f l y)).2 x hx hk
        exact ⟨l', hsame.trans (hf l y List.mem_cons_self hy), hvisit⟩

end Live

/-! ## What an operation can do -/

/-- What an operation can do to the account of a client that is known. A client that is gone stays as it
is, as does one that the operation spares; the queue of a client is emptied into some transport; or the
client is taken away, at the end of the service together with its transport. -/
inductive Account.Step (k : ClientId) (op : ClientOperation) (a : Account) : Account → Prop where
  | gone (h : a.client? = none) : Step k op a a
  | spared (h : op.heard = []) : Step k op a a
  | drained {c : Client} (t : Transport) (hc : a.client? = some c) (hop : op.reason = .error) :
    Step k op a
      (a.drain { c with queue := c.queue ++ op.heard } (drainQueue t (c.queue ++ op.heard)))
  | removed {c : Client} {reason : ClosedReason} (hc : a.client? = some c) (hop : op = .remove k reason) :
    Step k op a (a.remove op.reason)
  | shut {c : Client} {order : VisitingOrder} (hc : a.client? = some c) (hop : op = .closeAll order) :
    Step k op a ((a.remove op.reason).note [.complete])

theorem Account.Step.eq_of_gone {k : ClientId} {op : ClientOperation} {a a' : Account}
    (hs : Step k op a a') (h : a.client? = none) : a' = a := by
  cases hs with
  | gone | spared => rfl
  | drained t hc | removed hc | shut hc => cases h.symm.trans hc

namespace Live

variable {l : Live} {k : ClientId}

theorem mem_visit_iff (order : VisitingOrder) :
    k ∈ (order.visit l.registry.clients).map (·.id) ↔ (l.account k).client? ≠ none := by
  have hnone : (l.account k).client? = none ↔ k ∉ l.registry.clients.map (·.id) :=
    client?_place_eq_none_iff (u := k)
  rw [Ne, hnone, not_not, ((order.perm l.registry.clients).map (·.id)).mem_iff]

theorem nodup_visit (h : l.IsProper) (order : VisitingOrder) :
    ((order.visit l.registry.clients).map (·.id)).Nodup :=
  ((order.perm l.registry.clients).map (·.id)).nodup_iff.mpr h.distinct

theorem step_broadcastIn (h : l.IsProper) (order : VisitingOrder) (e : StreamEvent) (k : ClientId) :
    Account.Step k (.broadcast order e) (l.account k) ((l.broadcastIn order e).2.account k) := by
  let counted : Live :=
    { l with registry := { l.registry with broadcasts := l.registry.broadcasts + 1 } }
  have hdistinct : (((order.visit l.registry.clients).map (·.id)).map id).Nodup := by
    rw [List.map_id]
    exact nodup_visit h order
  obtain ⟨hspared, hvisited⟩ := account_foldl (l := counted) (k := k) (f := deliver e) hdistinct
    fun l id _ hk => account_deliver (.inr hk) e
  cases hc : (l.account k).client? with
  | none =>
    have hk : k ∉ (order.visit l.registry.clients).map (·.id) := fun hk => (mem_visit_iff order).mp hk hc
    rw [show (l.broadcastIn order e).2.account k = l.account k from hspared (by rwa [List.map_id])]
    exact .gone hc
  | some c =>
    have hk : k ∈ (order.visit l.registry.clients).map (·.id) := (mem_visit_iff order).mpr (by simp [hc])
    obtain ⟨l', hsame, hvisit⟩ := hvisited k hk rfl
    have hsame : l'.account k = l.account k := hsame
    have hfind : l'.registry.find? k = some c := by rw [← hc, ← hsame]; rfl
    have hid : k = c.id := (Registry.id_of_find? hfind).symm
    have hdrained : (l.broadcastIn order e).2.account k =
        (l.account k).drain { c with queue := c.queue ++ [e] }
          (drainQueue (l'.connections.get c.transport) (c.queue ++ [e])) := by
      refine Eq.trans hvisit ?_
      rw [deliver, hfind]
      exact (account_drain l' _ k).trans ((if_pos hid).trans (by rw [hsame]))
    rw [hdrained]
    exact .drained _ hc rfl

theorem step_closeAllIn (h : l.IsProper) (order : VisitingOrder) (k : ClientId) :
    Account.Step k (.closeAll order) (l.account k) ((l.closeAllIn order).account k) := by
  obtain ⟨hspared, hvisited⟩ := account_foldl (l := l) (k := k) (f := shut) (nodup_visit h order)
    fun l c _ hk => (account_shut l c k).trans (if_neg hk)
  cases hc : (l.account k).client? with
  | none =>
    have hk : k ∉ (order.visit l.registry.clients).map (·.id) := fun hk => (mem_visit_iff order).mp hk hc
    rw [show (l.closeAllIn order).account k = l.account k from hspared hk]
    exact .gone hc
  | some c =>
    have hmem : k ∈ (order.visit l.registry.clients).map (·.id) := (mem_visit_iff order).mpr (by simp [hc])
    obtain ⟨d, hd, hk⟩ := List.mem_map.mp hmem
    obtain ⟨l', hsame, hvisit⟩ := hvisited d hd hk.symm
    rw [show (l.closeAllIn order).account k = _ from hvisit, account_shut, if_pos hk.symm, hsame]
    exact .shut hc rfl

theorem step_onWritable (l : Live) (id k : ClientId) :
    Account.Step k (.writable id) (l.account k) ((l.onWritable id).account k) := by
  rw [onWritable]
  cases hfind : l.registry.find? id with
  | none => exact .spared rfl
  | some c =>
    obtain rfl : c.id = id := Registry.id_of_find? hfind
    dsimp only
    rw [account_drain]
    split
    · next hk =>
      have hstep : Account.Step k (.writable c.id) (l.account k) _ :=
        .drained (l.connections.get c.transport) (hk ▸ hfind) rfl
      simpa only [ClientOperation.heard, List.append_nil] using hstep
    · exact .spared rfl

theorem step_remove (l : Live) (id k : ClientId) (reason : ClosedReason) :
    Account.Step k (.remove id reason) (l.account k) ((l.remove id reason).2.account k) := by
  rw [account_remove]
  split
  · next hk =>
    cases hc : (l.account k).client? with
    | none =>
      rw [Account.remove, hc]
      exact .gone hc
    | some c => exact .removed hc (by rw [hk])
  · exact .spared rfl

/-- An operation gives the next number to a new client. -/
structure Registers (l : Live) (op : ClientOperation) (k : ClientId) : Prop where
  next : k = l.connections.issued
  issued : (l.act op).connections.issued = k + 1
  quiet : op.heard = []
  opened : ∃ u, (l.act op).account k = { l.account k with client? := some ⟨k, u, [], .opened⟩ }

/-- An operation registers the client, or does to its account what it can do to a client that is known;
and only the registration of a client gives out a number. -/
theorem account_act (h : l.IsProper) (op : ClientOperation) (k : ClientId) :
    (l.Registers op k ∨ Account.Step k op (l.account k) ((l.act op).account k)) ∧
      ((l.act op).connections.issued = l.connections.issued ∨ l.Registers op l.connections.issued) := by
  have hregister {l' : Live} (h' : l'.IsProper) (u : TransportId) (hl : l'.account = l.account)
      (hissued : l'.connections.issued = l.connections.issued) (hact : l.act op = (l'.register u).2)
      (hop : op.heard = []) :
      (l.Registers op k ∨ Account.Step k op (l.account k) ((l.act op).account k)) ∧
        ((l.act op).connections.issued = l.connections.issued ∨
          l.Registers op l.connections.issued) := by
    -- Both ways to come end with a registration, on a transport that is there by then.
    have hnew : l.Registers op l.connections.issued := by
      refine ⟨rfl, ?_, hop, u, ?_⟩
      · rw [hact, ← hissued]
        rfl
      · rw [hact, account_register h', if_pos hissued.symm, hl]
    refine ⟨?_, .inr hnew⟩
    by_cases hk : k = l.connections.issued
    · exact .inl (hk ▸ hnew)
    · rw [hact, account_register h', if_neg (by rwa [hissued]), hl]
      exact .inr (.spared hop)
  cases op with
  | connect t => exact hregister (isProper_add h t) l.connections.transports.length rfl rfl rfl rfl
  | join u =>
    by_cases hu : u < l.connections.transports.length
    · exact hregister h u rfl rfl (if_pos hu) rfl
    · rw [act, if_neg hu]
      exact ⟨.inr (.spared rfl), .inl rfl⟩
  | broadcast order e => exact ⟨.inr (step_broadcastIn h order e k), .inl (keeps_act h rfl).issued⟩
  | writable id => exact ⟨.inr (step_onWritable l id k), .inl (keeps_act h rfl).issued⟩
  | remove id reason => exact ⟨.inr (step_remove l id k reason), .inl (keeps_act h rfl).issued⟩
  | closeAll order => exact ⟨.inr (step_closeAllIn h order k), .inl (keeps_act h rfl).issued⟩
  | change u f => exact ⟨.inr (.spared rfl), .inl rfl⟩

end Live

end Sentinel
