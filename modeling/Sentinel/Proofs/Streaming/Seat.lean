import Mathlib.Data.List.Nodup
import Sentinel.Streaming.Registry
/-!
# Seats of streaming clients

All that a service keeps of one client: the client itself while it is registered, its transport, and
what the audit trail says of its end. Every operation acts on each seat by itself, whatever the other
clients do.

1. `Acts.andThen`: an operation on one client and its transport after another one.
2. `acts_modify`, `acts_remove`, `acts_drain`, `acts_deliver`, `acts_onWritable`: the operations on
   one client, and what they do to what is kept of it.
3. `Alone.single`, `place_broadcast`, `place_closeAll`: what operations on one client and on all of
   them do to a client whose transport no other client has.
4. `Acts.moves`: the same where every client has the transport with its own number.
-/

namespace Sentinel

/-- What an audit event says of the end of a client: why, and how many events it did not get. -/
def AuditEvent.closing? (id : ClientId) : AuditEvent → Option (ClosedReason × Nat)
  | clientClosed client reason undelivered => if client = id then some (reason, undelivered) else none
  | _ => none

theorem AuditEvent.closings_append (trail : Trail) (id k : ClientId) (reason : ClosedReason)
    (undelivered : Nat) :
    (trail ++ [clientClosed id reason undelivered]).filterMap (closing? k) =
      trail.filterMap (closing? k) ++ if k = id then [(reason, undelivered)] else [] := by
  rw [List.filterMap_append]
  by_cases hk : k = id
  · simp [closing?, hk]
  · simp [closing?, hk, Ne.symm hk]

/-- What is kept of one client. -/
structure Seat where
  client? : Option Client
  transport? : Option Transport
  closings : List (ClosedReason × Nat)

namespace Seat

def transport (s : Seat) : Transport := s.transport?.getD (.recorder { completed := true })

def modify (f : Transport → Transport) (s : Seat) : Seat := { s with transport? := s.transport?.map f }

/-- Takes the client away, if there is one, and lets go of its transport. -/
def remove (reason : ClosedReason) (s : Seat) : Seat :=
  match s.client? with
  | none => s
  | some c => {
    client? := none
    transport? := s.transport?.map Transport.release
    closings := s.closings ++ [(reason, c.queue.length)] }

/-- Empties the queue of the client as far as the transport takes it. -/
def drain (c : Client) (s : Seat) : Seat :=
  let d := drainQueue s.transport c.queue
  let state := if d.queue.isEmpty && d.failure.isNone then .idle else .draining
  let s := { s with client? := s.client?.map fun _ => { c with queue := d.queue, state } }.modify
    fun _ => d.transport
  match d.failure with
  | none => s
  | some _ => (s.remove .error).modify Transport.complete

def deliver (e : StreamEvent) (s : Seat) : Seat :=
  match s.client? with
  | none => s
  | some c => s.drain { c with queue := c.queue ++ [e] }

def onWritable (s : Seat) : Seat :=
  match s.client? with
  | none => s
  | some c => s.drain c

/-- Takes the client away at the end of the service, if there is one, and ends its transport. -/
def shut (s : Seat) : Seat :=
  match s.client? with
  | none => s
  | some _ => (s.remove .shutdown).modify Transport.complete

end Seat

namespace Registry

theorem find?_update (r : Registry) (c : Client) (k : ClientId) :
    (r.update c).find? k = if k = c.id then (r.find? k).map fun _ => c else r.find? k := by
  simp only [find?, update]
  induction r.clients with
  | nil => split <;> rfl
  | cons d ds ih =>
    rw [List.map_cons, List.find?_cons, List.find?_cons, ih]
    by_cases hd : d.id = c.id
    · by_cases hk : k = c.id
      · simp [hd, hk]
      · simp [hd, hk, Ne.symm hk]
    · by_cases hk : k = c.id
      · simp [hd, hk]
      · simp [hd, hk]

theorem find?_erase (r : Registry) (id k : ClientId) :
    (r.erase id).find? k = if k = id then none else r.find? k := by
  simp only [find?, erase, List.find?_filter]
  split
  · next hk => simp [hk]
  · next hk =>
    congr 1
    funext d
    by_cases hd : d.id = k <;> simp [hd, hk]

end Registry

namespace Registry

/-- The numbers of the clients, each with its transport. -/
def seating (r : Registry) : List (ClientId × TransportId) := r.clients.map fun c => (c.id, c.transport)

theorem mem_seating {r : Registry} {pair : ClientId × TransportId} :
    pair ∈ r.seating ↔ ∃ c ∈ r.clients, (c.id, c.transport) = pair := List.mem_map

theorem map_fst_seating (r : Registry) : r.seating.map Prod.fst = r.clients.map (·.id) := List.map_map

theorem id_of_find? {r : Registry} {id : ClientId} {c : Client} (h : r.find? id = some c) :
    c.id = id := by
  simpa using List.find?_some h

end Registry

namespace Live

/-- What is kept of a client with a given number if it has a given transport. -/
def place (l : Live) (id : ClientId) (t : TransportId) : Seat where
  client? := l.registry.find? id
  transport? := l.connections.transports[t]?
  closings := l.trail.filterMap (AuditEvent.closing? id)

def seat (l : Live) (id : ClientId) : Seat where
  client? := l.registry.find? id
  transport? := l.connections.transports[id]?
  closings := l.trail.filterMap (AuditEvent.closing? id)

/-- If there is a client with a number, it has a given transport. -/
def Sits (l : Live) (id : ClientId) (t : TransportId) : Prop :=
  ∀ c ∈ l.registry.clients, c.id = id → c.transport = t

/-- From one state to another no client comes, none changes its number or its transport, and no number
and no transport is given out. -/
structure Keeps (l l' : Live) : Prop where
  seating : l'.registry.seating.Sublist l.registry.seating
  issued : l'.connections.issued = l.connections.issued
  transports : l'.connections.transports.length = l.connections.transports.length

/-- From one state to another only a client and a transport change: what is kept of a client at a
transport changes in a given way for this client at this transport, and not at all for another client
at another one. -/
structure Acts (id : ClientId) (t : TransportId) (f : Seat → Seat) (l l' : Live) : Prop
    extends Keeps l l' where
  place : ∀ k u, (k = id ↔ u = t) → l'.place k u = if k = id then f (l.place k u) else l.place k u

variable {l l' l'' : Live} {id : ClientId} {t : TransportId} {f g : Seat → Seat}

namespace Keeps

theorem refl (l : Live) : Keeps l l := ⟨List.Sublist.refl _, rfl, rfl⟩

theorem trans (h : Keeps l l') (h' : Keeps l' l'') : Keeps l l'' :=
  ⟨h'.seating.trans h.seating, h'.issued.trans h.issued, h'.transports.trans h.transports⟩

theorem exists_client (h : Keeps l l') {c : Client} (hc : c ∈ l'.registry.clients) :
    ∃ d ∈ l.registry.clients, d.id = c.id ∧ d.transport = c.transport := by
  have hmem := h.seating.subset (Registry.mem_seating.mpr ⟨c, hc, rfl⟩)
  obtain ⟨d, hd, heq⟩ := Registry.mem_seating.mp hmem
  exact ⟨d, hd, congrArg Prod.fst heq, congrArg Prod.snd heq⟩

end Keeps

theorem Sits.keeps (h : l.Sits id t) (hkeeps : Keeps l l') : l'.Sits id t := by
  intro c hc hid
  obtain ⟨d, hd, hid', htransport⟩ := hkeeps.exists_client hc
  rw [← htransport]
  exact h d hd (hid'.trans hid)

namespace Acts

theorem refl (hf : f (l.place id t) = l.place id t) : Acts id t f l l := by
  refine ⟨Keeps.refl l, fun k u hku => ?_⟩
  split
  · next hk => rw [hk, hku.mp hk, hf]
  · rfl

theorem andThen (h : Acts id t f l l') (h' : Acts id t g l' l'') : Acts id t (g ∘ f) l l'' := by
  refine ⟨h.toKeeps.trans h'.toKeeps, fun k u hku => ?_⟩
  rw [h'.place k u hku, h.place k u hku]
  split <;> rfl

/-- It is enough that a way of changing does the same to what is at hand. -/
theorem congr (h : Acts id t f l l') (hg : g (l.place id t) = f (l.place id t)) :
    Acts id t g l l' := by
  refine ⟨h.toKeeps, fun k u hku => ?_⟩
  rw [h.place k u hku]
  split
  · next hk => rw [hk, hku.mp hk, hg]
  · rfl

end Acts

theorem acts_modify (l : Live) (id : ClientId) (t : TransportId) (f : Transport → Transport) :
    Acts id t (Seat.modify f) l { l with connections := l.connections.modify t f } := by
  refine ⟨⟨List.Sublist.refl _, rfl, List.length_modify f l.connections.transports t⟩,
    fun k u hku => ?_⟩
  have hget : (l.connections.transports.modify t f)[u]? =
      if k = id then (l.connections.transports[u]?).map f else l.connections.transports[u]? := by
    rw [List.getElem?_modify]
    by_cases hk : k = id
    · simp [hk, hku.mp hk]
    · have hu : t ≠ u := fun hu => hk (hku.mpr hu.symm)
      simp [hk, hu]
  rw [place]
  show Seat.mk _ (l.connections.transports.modify t f)[u]? _ = _
  rw [hget]
  split <;> rfl

/-- What was called for a client is no part of what is kept of it. -/
theorem acts_note (l : Live) (id : ClientId) (t : TransportId) (calls : List TransportCall) :
    Acts id t (fun s => s) l { l with connections := l.connections.note id calls } :=
  ⟨⟨List.Sublist.refl _, rfl, rfl⟩, fun _ _ _ => (ite_self _).symm⟩

theorem acts_complete (l : Live) (c : Client) :
    Acts c.id c.transport (Seat.modify Transport.complete) l
      { l with connections := l.connections.complete c } :=
  (acts_modify l c.id c.transport Transport.complete).andThen (acts_note _ c.id c.transport [.complete])

theorem acts_update {c : Client} (h : l.Sits c.id c.transport) (t : TransportId) :
    Acts c.id t (fun s => { s with client? := s.client?.map fun _ => c }) l
      { l with registry := l.registry.update c } := by
  have hseating : (l.registry.update c).seating = l.registry.seating := by
    show (l.registry.clients.map _).map _ = l.registry.clients.map _
    rw [List.map_map]
    refine List.map_congr_left fun d hd => ?_
    show (Client.id (if d.id = c.id then c else d), Client.transport (if d.id = c.id then c else d)) = _
    split
    · next hid => rw [← hid, h d hd hid]
    · rfl
  refine ⟨⟨hseating ▸ List.Sublist.refl _, rfl, rfl⟩, fun k u _ => ?_⟩
  rw [place]
  show Seat.mk ((l.registry.update c).find? k) _ _ = _
  rw [Registry.find?_update]
  split <;> rfl

theorem acts_erase (l : Live) (id : ClientId) (t : TransportId) :
    Acts id t (fun s => { s with client? := none }) l { l with registry := l.registry.erase id } := by
  refine ⟨⟨List.filter_sublist.map _, rfl, rfl⟩, fun k u _ => ?_⟩
  rw [place]
  show Seat.mk ((l.registry.erase id).find? k) _ _ = _
  rw [Registry.find?_erase]
  split <;> rfl

theorem acts_record (l : Live) (id : ClientId) (t : TransportId) (reason : ClosedReason)
    (undelivered : Nat) :
    Acts id t (fun s => { s with closings := s.closings ++ [(reason, undelivered)] }) l
      (l.record (.clientClosed id reason undelivered)) := by
  refine ⟨⟨List.Sublist.refl _, rfl, rfl⟩, fun k u _ => ?_⟩
  rw [place]
  show Seat.mk _ _ ((l.trail ++ [_]).filterMap (AuditEvent.closing? k)) = _
  rw [AuditEvent.closings_append]
  split
  · rfl
  · rw [List.append_nil]
    rfl

theorem acts_remove (h : l.Sits id t) (reason : ClosedReason) :
    Acts id t (Seat.remove reason) l (l.remove id reason).2 := by
  have hclient : (l.place id t).client? = l.registry.find? id := rfl
  cases hc : l.registry.find? id with
  | none =>
    have hl : (l.remove id reason).2 = l := by rw [remove, hc]
    rw [hl]
    refine Acts.refl ?_
    rw [Seat.remove, hclient, hc]
  | some c =>
    have htransport : c.transport = t := h c (List.mem_of_find?_eq_some hc) (Registry.id_of_find? hc)
    have herase := acts_erase l id t
    have hrelease := herase.andThen (acts_modify _ id t Transport.release)
    have hrecord := hrelease.andThen (acts_record _ id t reason c.queue.length)
    have hl : (l.remove id reason).2 =
        { registry := l.registry.erase id
          connections := l.connections.modify c.transport Transport.release
          trail := l.trail ++ [.clientClosed id reason c.queue.length] } := by
      rw [remove, hc]
      rfl
    rw [hl, htransport]
    refine hrecord.congr ?_
    rw [Seat.remove, hclient, hc]
    rfl

theorem acts_drain {c : Client} (h : l.Sits c.id c.transport) :
    Acts c.id c.transport (Seat.drain c) l (l.drain c) := by
  suffices hdrain : ∃ f, Acts c.id c.transport f l (l.drain c) ∧
      (l.place c.id c.transport).drain c = f (l.place c.id c.transport) by
    obtain ⟨f, hacts, hf⟩ := hdrain
    exact hacts.congr hf
  have hget : l.connections.get c.transport = (l.place c.id c.transport).transport := rfl
  rw [drain, Seat.drain, hget]
  generalize drainQueue (l.place c.id c.transport).transport c.queue = d
  obtain ⟨queue, written, failure, calls⟩ := d
  -- The client gets its new state, the transport changes, and a failure takes the client away.
  have hupdate := acts_update (l := l)
    (c := { c with queue, state := if queue.isEmpty && failure.isNone then .idle else .draining })
    h c.transport
  have hmodified := hupdate.andThen (acts_modify _ c.id c.transport fun _ => written)
  have hwritten := hmodified.andThen (acts_note _ c.id c.transport calls)
  cases failure with
  | none => exact ⟨_, hwritten, rfl⟩
  | some e =>
    have hremoved := hwritten.andThen (acts_remove (h.keeps hwritten.toKeeps) .error)
    exact ⟨_, hremoved.andThen (acts_complete _ c), rfl⟩

theorem acts_deliver (h : l.Sits id t) (e : StreamEvent) :
    Acts id t (Seat.deliver e) l (l.deliver e id) := by
  have hclient : (l.place id t).client? = l.registry.find? id := rfl
  cases hc : l.registry.find? id with
  | none =>
    rw [deliver, hc]
    refine Acts.refl ?_
    rw [Seat.deliver, hclient, hc]
  | some c =>
    obtain rfl : c.id = id := Registry.id_of_find? hc
    obtain rfl : c.transport = t := h c (List.mem_of_find?_eq_some hc) rfl
    rw [deliver, hc]
    refine (acts_drain (c := { c with queue := c.queue ++ [e] }) h).congr ?_
    rw [Seat.deliver, hclient, hc]

theorem acts_onWritable (h : l.Sits id t) : Acts id t Seat.onWritable l (l.onWritable id) := by
  have hclient : (l.place id t).client? = l.registry.find? id := rfl
  cases hc : l.registry.find? id with
  | none =>
    rw [onWritable, hc]
    refine Acts.refl ?_
    rw [Seat.onWritable, hclient, hc]
  | some c =>
    obtain rfl : c.id = id := Registry.id_of_find? hc
    obtain rfl : c.transport = t := h c (List.mem_of_find?_eq_some hc) rfl
    rw [onWritable, hc]
    refine (acts_drain h).congr ?_
    rw [Seat.onWritable, hclient, hc]

/-! ## Transports of one client alone -/

/-- No two clients that are registered share a number, and each has a number and a transport that were
given out. -/
structure IsProper (l : Live) : Prop where
  distinct : (l.registry.clients.map (·.id)).Nodup
  known : ∀ c ∈ l.registry.clients, c.id < l.connections.issued
  given : ∀ c ∈ l.registry.clients, c.transport < l.connections.transports.length

/-- A client, if it is registered, has a given transport, and no other client has it. -/
structure Alone (l : Live) (k : ClientId) (u : TransportId) : Prop where
  proper : l.IsProper
  alone : ∀ c ∈ l.registry.clients, c.id = k ↔ c.transport = u

variable {k : ClientId} {u : TransportId}

theorem IsProper.keeps (h : l.IsProper) (hkeeps : Keeps l l') : l'.IsProper := by
  refine ⟨?_, fun c hc => ?_, fun c hc => ?_⟩
  · have hdistinct := h.distinct
    rw [← Registry.map_fst_seating] at hdistinct ⊢
    exact hdistinct.sublist (hkeeps.seating.map Prod.fst)
  · obtain ⟨d, hd, hid, -⟩ := hkeeps.exists_client hc
    rw [← hid, hkeeps.issued]
    exact h.known d hd
  · obtain ⟨d, hd, -, htransport⟩ := hkeeps.exists_client hc
    rw [← htransport, hkeeps.transports]
    exact h.given d hd

namespace Alone

theorem keeps (h : l.Alone k u) (hkeeps : Keeps l l') : l'.Alone k u := by
  refine ⟨h.proper.keeps hkeeps, fun c hc => ?_⟩
  obtain ⟨d, hd, hid, htransport⟩ := hkeeps.exists_client hc
  rw [← hid, ← htransport]
  exact h.alone d hd

theorem exists_sits (h : l.Alone k u) (id : ClientId) : ∃ t, l.Sits id t ∧ (k = id ↔ u = t) := by
  by_cases hid : id = k
  · exact ⟨u, fun c hc hc' => (h.alone c hc).mp (hc'.trans hid), by simp [hid]⟩
  · by_cases hex : ∃ c ∈ l.registry.clients, c.id = id
    · obtain ⟨c, hc, rfl⟩ := hex
      have hsame : ∀ d ∈ l.registry.clients, d.id = c.id → d = c :=
        fun d hd hd' => List.inj_on_of_nodup_map h.proper.distinct hd hc hd'
      have hu : u ≠ c.transport := fun hu => hid ((h.alone c hc).mpr hu.symm)
      exact ⟨c.transport, fun d hd hd' => hsame d hd hd' ▸ rfl, by simp [Ne.symm hid, hu]⟩
    · exact ⟨u + 1, fun d hd hd' => absurd ⟨d, hd, hd'⟩ hex, by simp [Ne.symm hid]⟩

/-- An operation on one client changes what is kept of the client at hand if it is that client. -/
theorem single (h : l.Alone k u) (hacts : ∀ t, l.Sits id t → Acts id t f l l') :
    Keeps l l' ∧ l'.place k u = if k = id then f (l.place k u) else l.place k u := by
  obtain ⟨t, hsits, hku⟩ := h.exists_sits id
  have hacts := hacts t hsits
  exact ⟨hacts.toKeeps, hacts.place k u hku⟩

/-- Operations on different numbers, one after the other: each changes what is seen of the client at
hand if it has its number. -/
theorem foldl {α β : Type} {act : Live → α → Live} {number : α → ClientId} {xs : List α} {f : β → β}
    (view : Live → β) (h : l.Alone k u) (hdistinct : (xs.map number).Nodup)
    (hact : ∀ l : Live, l.Alone k u → ∀ x ∈ xs, Keeps l (act l x) ∧
      view (act l x) = if k = number x then f (view l) else view l) :
    Keeps l (xs.foldl act l) ∧ view (xs.foldl act l) = if k ∈ xs.map number then f (view l) else view l := by
  -- By induction on the list: no later element changes the client of an earlier one again.
  induction xs generalizing l with
  | nil => exact ⟨Keeps.refl l, by rw [List.foldl_nil, if_neg (by simp)]⟩
  | cons x xs ih =>
    rw [List.map_cons, List.nodup_cons] at hdistinct
    obtain ⟨hkeeps, hplace⟩ := hact l h x List.mem_cons_self
    obtain ⟨hrest, hplaces⟩ :=
      ih (h.keeps hkeeps) hdistinct.2 fun l hl y hy => hact l hl y (List.mem_cons_of_mem x hy)
    refine ⟨hkeeps.trans hrest, ?_⟩
    rw [List.foldl_cons, hplaces, hplace, List.map_cons]
    by_cases hk : k = number x
    · rw [if_neg (hk ▸ hdistinct.1), if_pos hk, if_pos (hk ▸ List.mem_cons_self)]
    · rw [if_neg hk]
      simp [hk]

end Alone

theorem client?_place_eq_none_iff :
    (l.place k u).client? = none ↔ k ∉ l.registry.clients.map (·.id) := by
  show l.registry.clients.find? _ = none ↔ _
  rw [List.find?_eq_none, List.mem_map]
  constructor
  · rintro hnone ⟨c, hc, rfl⟩
    exact hnone c hc (decide_eq_true rfl)
  · intro hnone c hc hk
    exact hnone ⟨c, hc, of_decide_eq_true hk⟩

/-- Operations on all clients, in some order: each changes what is seen of the client at hand if it is on
this client, and one of them is if there is the client. -/
theorem Alone.visited {α β : Type} {number : α → ClientId} {xs : List α} {f : β → β}
    (act : Live → α → Live) (view : Live → β) (h : l.Alone k u)
    (hperm : List.Perm (xs.map number) (l.registry.clients.map (·.id)))
    (hact : ∀ l : Live, l.Alone k u → ∀ x ∈ xs, Keeps l (act l x) ∧
      view (act l x) = if k = number x then f (view l) else view l) :
    Keeps l (xs.foldl act l) ∧
      view (xs.foldl act l) = if (l.place k u).client? = none then view l else f (view l) := by
  have hmem : k ∈ xs.map number ↔ (l.place k u).client? ≠ none := by
    rw [Ne, client?_place_eq_none_iff, not_not, hperm.mem_iff]
  obtain ⟨hkeeps, hview⟩ := h.foldl view (hperm.nodup_iff.mpr h.proper.distinct) hact
  refine ⟨hkeeps, hview.trans ?_⟩
  by_cases hnone : (l.place k u).client? = none
  · rw [if_pos hnone, if_neg fun hk => hmem.mp hk hnone]
  · rw [if_neg hnone, if_pos (hmem.mpr hnone)]

/-- A broadcast gives the event to every client, whatever becomes of the others and in whatever order
they are visited. -/
theorem place_broadcastIn (h : l.Alone k u) (order : VisitingOrder) (e : StreamEvent) :
    Keeps l (l.broadcastIn order e).2 ∧
      (l.broadcastIn order e).2.place k u = (l.place k u).deliver e := by
  let counted : Live :=
    { l with registry := { l.registry with broadcasts := l.registry.broadcasts + 1 } }
  have hcounted : Keeps l counted := ⟨List.Sublist.refl _, rfl, rfl⟩
  have hperm : List.Perm (((order.visit l.registry.clients).map (·.id)).map id)
      (counted.registry.clients.map (·.id)) := by
    rw [List.map_id]
    exact (order.perm _).map _
  obtain ⟨hkeeps, hplace⟩ := (h.keeps hcounted).visited (deliver e) (·.place k u) hperm
    fun l hl id _ => hl.single fun t ht => acts_deliver ht e
  refine ⟨hcounted.trans hkeeps, hplace.trans ?_⟩
  have hclient : (counted.place k u).client? = (l.place k u).client? := rfl
  split
  · next hnone =>
    rw [hclient] at hnone
    show l.place k u = _
    rw [Seat.deliver, hnone]
  · rfl

theorem place_broadcast (h : l.Alone k u) (e : StreamEvent) :
    Keeps l (l.broadcast e).2 ∧ (l.broadcast e).2.place k u = (l.place k u).deliver e :=
  place_broadcastIn h .bySeniority e

theorem place_shut (h : l.Alone k u) {c : Client} (hc : c.id = k ↔ c.transport = u) :
    Keeps l (l.shut c) ∧ (l.shut c).place k u =
      if k = c.id then ((l.place k u).remove .shutdown).modify Transport.complete else l.place k u := by
  have hku : k = c.id ↔ u = c.transport := by rw [eq_comm, hc, eq_comm]
  obtain ⟨hremoved, hplace⟩ := h.single fun t (ht : l.Sits c.id t) => acts_remove ht .shutdown
  have hcomplete := acts_complete (l.remove c.id .shutdown).2 c
  refine ⟨hremoved.trans hcomplete.toKeeps, (hcomplete.place k u hku).trans ?_⟩
  rw [hplace]
  split <;> rfl

theorem place_closeAllIn (h : l.Alone k u) (order : VisitingOrder) :
    Keeps l (l.closeAllIn order) ∧ (l.closeAllIn order).place k u = (l.place k u).shut := by
  have hperm := order.perm l.registry.clients
  obtain ⟨hkeeps, hplace⟩ := h.visited (f := fun s => (s.remove .shutdown).modify Transport.complete)
    shut (·.place k u) (hperm.map Client.id) fun l' hl' c hc => place_shut hl' (h.alone c (hperm.mem_iff.mp hc))
  refine ⟨hkeeps, hplace.trans ?_⟩
  split
  · next hnone => rw [Seat.shut, hnone]
  · next hsome =>
    obtain ⟨c, hc⟩ := Option.ne_none_iff_exists'.mp hsome
    rw [Seat.shut, hc]

theorem place_closeAll (h : l.Alone k u) :
    Keeps l l.closeAll ∧ l.closeAll.place k u = (l.place k u).shut :=
  place_closeAllIn h .bySeniority

/-! ## Clients that have the transports with their own numbers -/

/-- Each client that was ever registered has a transport of its own, the one with its number, and no
two clients that are registered share a number. -/
structure IsSound (l : Live) : Prop where
  issued : l.connections.transports.length = l.connections.issued
  transport : ∀ c ∈ l.registry.clients, c.transport = c.id
  known : ∀ c ∈ l.registry.clients, c.id < l.connections.issued
  distinct : (l.registry.clients.map (·.id)).Nodup

/-- From one state to another only the seat of one client changes, and it does so in a given way. -/
structure Moves (id : ClientId) (f : Seat → Seat) (l l' : Live) : Prop where
  sound : l'.IsSound
  issued : l'.connections.issued = l.connections.issued
  seat : ∀ k, l'.seat k = if k = id then f (l.seat k) else l.seat k

namespace IsSound

theorem isProper (h : l.IsSound) : l.IsProper := by
  refine ⟨h.distinct, h.known, fun c hc => ?_⟩
  rw [h.transport c hc, h.issued]
  exact h.known c hc

theorem alone (h : l.IsSound) (k : ClientId) : l.Alone k k :=
  ⟨h.isProper, fun c hc => by rw [h.transport c hc]⟩

theorem sits (h : l.IsSound) (id : ClientId) : l.Sits id id :=
  fun c hc hid => (h.transport c hc).trans hid

theorem keeps (h : l.IsSound) (hkeeps : Keeps l l') : l'.IsSound := by
  have hproper := h.isProper.keeps hkeeps
  refine ⟨?_, fun c hc => ?_, hproper.known, hproper.distinct⟩
  · rw [hkeeps.transports, hkeeps.issued]
    exact h.issued
  · obtain ⟨d, hd, hid, htransport⟩ := hkeeps.exists_client hc
    rw [← hid, ← htransport]
    exact h.transport d hd

end IsSound

theorem Acts.moves (hacts : Acts id id f l l') (h : l.IsSound) : Moves id f l l' :=
  ⟨h.keeps hacts.toKeeps, hacts.issued, fun k => hacts.place k k Iff.rfl⟩

theorem find?_eq_some_iff (h : l.IsSound) {c : Client} :
    l.registry.find? c.id = some c ↔ c ∈ l.registry.clients := by
  constructor
  · exact List.mem_of_find?_eq_some
  · intro hc
    have hdistinct := List.pairwise_map.mp h.distinct
    rw [Registry.find?]
    generalize l.registry.clients = cs at hc hdistinct
    induction cs with
    | nil => cases hc
    | cons d ds ih =>
      obtain ⟨hd, hds⟩ := List.pairwise_cons.mp hdistinct
      rcases List.mem_cons.mp hc with rfl | hc
      · exact List.find?_cons_of_pos (by simp)
      · rw [List.find?_cons_of_neg (by simpa using hd c hc)]
        exact ih hc hds

theorem moves_modify (h : l.IsSound) (id : ClientId) (f : Transport → Transport) :
    Moves id (Seat.modify f) l { l with connections := l.connections.modify id f } :=
  (acts_modify l id id f).moves h

theorem moves_remove (h : l.IsSound) (id : ClientId) (reason : ClosedReason) :
    Moves id (Seat.remove reason) l (l.remove id reason).2 :=
  (acts_remove (h.sits id) reason).moves h

theorem moves_onWritable (h : l.IsSound) (id : ClientId) :
    Moves id Seat.onWritable l (l.onWritable id) :=
  (acts_onWritable (h.sits id)).moves h

end Live

end Sentinel
