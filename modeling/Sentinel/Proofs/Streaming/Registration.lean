import Sentinel.Proofs.Streaming.Seat
/-!
# Registration of streaming clients

A client comes with a transport of its own, or to one that is there. It gets the next number, which no
client has that is already known, and nothing changes for the others.

1. `IsProper.single`: an operation on one client gives no two clients one number.
2. `isProper_register`, `find?_register`: a client comes to a transport that is there.
3. `place_connect`, `seat_connect`: a client comes with a transport.
-/

namespace Sentinel

namespace Seat

/-- The seat of a client that has just been registered on a transport. -/
def opened (id : ClientId) (t : Transport) (s : Seat) : Seat :=
  { s with client? := some ⟨id, id, [], .opened⟩, transport? := some t }

end Seat

namespace Live

def empty : Live := ⟨.empty, .empty, []⟩

/-- Registers a client on a transport of its own. -/
def connect (l : Live) (t : Transport) : ClientId × Live :=
  let (transport, connections) := l.connections.add t
  { l with connections }.register transport

variable {l l' : Live} {k : ClientId} {u : TransportId}

theorem isSound_empty : empty.IsSound :=
  ⟨rfl, fun _ h => absurd h List.not_mem_nil, fun _ h => absurd h List.not_mem_nil, List.nodup_nil⟩

theorem IsProper.alone_next (h : l.IsProper) :
    l.Alone l.connections.issued l.connections.transports.length :=
  ⟨h, fun c hc => iff_of_false (Nat.ne_of_lt (h.known c hc)) (Nat.ne_of_lt (h.given c hc))⟩

theorem IsProper.single {id : ClientId} {f : Seat → Seat} (h : l.IsProper)
    (hacts : ∀ t, l.Sits id t → Acts id t f l l') : l'.IsProper :=
  h.keeps (h.alone_next.single hacts).1

theorem IsProper.modify (h : l.IsProper) (t : TransportId) (f : Transport → Transport) :
    Live.IsProper { l with connections := l.connections.modify t f } :=
  h.keeps (acts_modify l l.connections.issued t f).toKeeps

theorem mem_clients_register {u : TransportId} {c : Client} :
    c ∈ (l.register u).2.registry.clients ↔
      c ∈ l.registry.clients ∨ c = ⟨l.connections.issued, u, [], .opened⟩ := by
  show c ∈ l.registry.clients ++ [_] ↔ _
  rw [List.mem_append, List.mem_singleton]

theorem isProper_register (h : l.IsProper) (hu : u < l.connections.transports.length) :
    (l.register u).2.IsProper := by
  refine ⟨?_, fun c hc => ?_, fun c hc => ?_⟩
  · show ((l.registry.clients ++ [_]).map Client.id).Nodup
    rw [List.map_append, List.nodup_append]
    refine ⟨h.distinct, List.pairwise_singleton _ _, ?_⟩
    intro id hid id' hid' heq
    obtain ⟨c, hc, rfl⟩ := List.mem_map.mp hid
    have hid' : id' = l.connections.issued := List.mem_singleton.mp hid'
    exact Nat.ne_of_lt (h.known c hc) (heq.trans hid')
  · show c.id < l.connections.issued + 1
    rcases mem_clients_register.mp hc with hc | rfl
    · exact Nat.lt_succ_of_lt (h.known c hc)
    · exact Nat.lt_succ_self _
  · show c.transport < l.connections.transports.length
    rcases mem_clients_register.mp hc with hc | rfl
    · exact h.given c hc
    · exact hu

theorem find?_register (h : l.IsProper) (u : TransportId) (k : ClientId) :
    (l.register u).2.registry.find? k =
      if k = l.connections.issued then some ⟨k, u, [], .opened⟩ else l.registry.find? k := by
  let new : Client := ⟨l.connections.issued, u, [], .opened⟩
  show (l.registry.clients ++ [new]).find? _ = _
  rw [List.find?_append]
  by_cases hk : k = l.connections.issued
  · have hnone : l.registry.clients.find? (·.id = k) = none := by
      refine List.find?_eq_none.mpr fun c hc hck => ?_
      have hck : c.id = k := of_decide_eq_true hck
      exact Nat.ne_of_lt (h.known c hc) (hck.trans hk)
    have hlast : [new].find? (·.id = k) = some new :=
      List.find?_cons_of_pos (decide_eq_true hk.symm)
    rw [hnone, if_pos hk, Option.none_or, hlast, hk]
  · have hlast : [new].find? (·.id = k) = none :=
      List.find?_cons_of_neg fun hnew => hk (of_decide_eq_true hnew).symm
    rw [if_neg hk, hlast, Option.or_none]
    rfl

theorem closings_register (l : Live) (u : TransportId) (k : ClientId) :
    (l.register u).2.trail.filterMap (AuditEvent.closing? k) =
      l.trail.filterMap (AuditEvent.closing? k) := by
  show (l.trail ++ [_]).filterMap _ = _
  rw [List.filterMap_append]
  exact List.append_nil _

theorem mem_clients_connect {t : Transport} {c : Client} :
    c ∈ (l.connect t).2.registry.clients ↔ c ∈ l.registry.clients ∨
      c = ⟨l.connections.issued, l.connections.transports.length, [], .opened⟩ := mem_clients_register

theorem length_transports_connect (l : Live) (t : Transport) :
    (l.connect t).2.connections.transports.length = l.connections.transports.length + 1 :=
  List.length_append

theorem isProper_add (h : l.IsProper) (t : Transport) :
    IsProper { l with connections := (l.connections.add t).2 } :=
  ⟨h.distinct, h.known, fun c hc => length_transports_connect l t ▸ Nat.lt_succ_of_lt (h.given c hc)⟩

theorem isProper_connect (h : l.IsProper) (t : Transport) : (l.connect t).2.IsProper :=
  isProper_register (isProper_add h t) (length_transports_connect l t ▸ Nat.lt_succ_self _)

/-- A new client gets the next number and the next transport; nothing changes for another client at
another transport. -/
theorem place_connect (h : l.IsProper) (t : Transport)
    (hku : k = l.connections.issued ↔ u = l.connections.transports.length) :
    (l.connect t).2.place k u =
      if k = l.connections.issued then
        { l.place k u with client? := some ⟨k, u, [], .opened⟩, transport? := some t }
      else l.place k u := by
  have hfind : (l.connect t).2.registry.find? k =
      if k = l.connections.issued then some ⟨k, u, [], .opened⟩ else l.registry.find? k := by
    have hregistered := find?_register (isProper_add h t) l.connections.transports.length k
    refine Eq.trans hregistered ?_
    show (if k = l.connections.issued then _ else _) = _
    split
    · next hk => rw [hku.mp hk]
    · rfl
  have htransport : (l.connections.transports ++ [t])[u]? =
      if k = l.connections.issued then some t else l.connections.transports[u]? := by
    rcases Nat.lt_trichotomy u l.connections.transports.length with hu | hu | hu
    · rw [if_neg fun hk => Nat.ne_of_lt hu (hku.mp hk), List.getElem?_append_left hu]
    · rw [if_pos (hku.mpr hu), hu, List.getElem?_concat_length]
    · rw [if_neg fun hk => Nat.ne_of_gt hu (hku.mp hk), List.getElem?_eq_none (Nat.le_of_lt hu)]
      refine List.getElem?_eq_none ?_
      rw [List.length_append]
      exact hu
  have hclosings : (l.connect t).2.trail.filterMap (AuditEvent.closing? k) =
      l.trail.filterMap (AuditEvent.closing? k) := closings_register _ _ k
  rw [place, hclosings, hfind]
  show Seat.mk _ (l.connections.transports ++ [t])[u]? _ = _
  rw [htransport]
  split <;> rfl

/-- A new client gets the next number; nothing changes for the others. -/
theorem seat_connect (h : l.IsSound) (t : Transport) :
    (l.connect t).2.IsSound ∧ (l.connect t).2.connections.issued = l.connections.issued + 1 ∧
      ∀ k, (l.connect t).2.seat k =
        if k = l.connections.issued then (l.seat k).opened k t else l.seat k := by
  have hproper := isProper_connect h.isProper t
  refine ⟨⟨?_, ?_, hproper.known, hproper.distinct⟩, rfl, fun k => ?_⟩
  · rw [length_transports_connect, h.issued]
    rfl
  · intro c hc
    rcases mem_clients_connect.mp hc with hc | rfl
    · exact h.transport c hc
    · exact h.issued
  · exact place_connect h.isProper t (by rw [h.issued])

end Live

end Sentinel
