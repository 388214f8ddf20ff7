import Sentinel.Proofs.Streaming.Run
/-!
# A transport of one client alone

A service may have clients whose transports have other numbers than they, and clients that share a
transport. What is kept of a client with a transport of its own still changes with each operation as
if there were no other client.

1. `isProper_step`: no operation gives two clients one number.
2. `owns_connect_new`, `place_connect_new`: a new client has its transport for itself.
3. `place_step`: what each operation does to what is kept of such a client.
-/

namespace Sentinel

namespace Live

/-- A transport was given to one client alone. The client was registered and may be gone. -/
structure Owns (l : Live) (k : ClientId) (u : TransportId) : Prop extends l.Alone k u where
  issued : k < l.connections.issued
  given : u < l.connections.transports.length

variable {l l' : Live} {k : ClientId} {u : TransportId}

theorem Owns.keeps (h : l.Owns k u) (hkeeps : Keeps l l') : l'.Owns k u := by
  refine ⟨h.toAlone.keeps hkeeps, ?_, ?_⟩
  · rw [hkeeps.issued]
    exact h.issued
  · rw [hkeeps.transports]
    exact h.given

theorem isProper_step (h : l.IsProper) (op : ServiceOperation) : (l.step op).IsProper := by
  rw [← act_general]
  exact isProper_act h op.general

theorem owns_connect_new (h : l.IsProper) (t : Transport) :
    (l.connect t).2.Owns l.connections.issued l.connections.transports.length := by
  refine ⟨⟨isProper_connect h t, fun c hc => ?_⟩, Nat.lt_succ_self _, ?_⟩
  · rcases mem_clients_connect.mp hc with hc | rfl
    · exact h.alone_next.alone c hc
    · exact iff_of_true rfl rfl
  · rw [length_transports_connect]
    exact Nat.lt_succ_self _

theorem place_connect_new (h : l.IsProper) (t : Transport) :
    let k := l.connections.issued
    let u := l.connections.transports.length
    (l.connect t).2.place k u =
      { l.place k u with client? := some ⟨k, u, [], .opened⟩, transport? := some t } := by
  intro k u
  rw [place_connect h t (by simp [k, u]), if_pos rfl]

theorem place_connect_other (h : l.Owns k u) (t : Transport) :
    (l.connect t).2.Owns k u ∧ (l.connect t).2.place k u = l.place k u := by
  have hk : k ≠ l.connections.issued := Nat.ne_of_lt h.issued
  have hu : u ≠ l.connections.transports.length := Nat.ne_of_lt h.given
  refine ⟨⟨⟨isProper_connect h.proper t, fun c hc => ?_⟩, Nat.lt_succ_of_lt h.issued, ?_⟩, ?_⟩
  · rcases mem_clients_connect.mp hc with hc | rfl
    · exact h.alone c hc
    · exact iff_of_false hk.symm hu.symm
  · rw [length_transports_connect]
    exact Nat.lt_succ_of_lt h.given
  · rw [place_connect h.proper t (iff_of_false hk hu), if_neg hk]

/-- An operation does to what is kept of a client that has a channel for itself what it does to a seat
by itself. -/
theorem place_step {ch : Channel} (h : l.Owns k u)
    (hch : (l.place k u).transport? = some (.channel ch)) (op : ServiceOperation) :
    (l.step op).Owns k u ∧ (l.step op).place k u = (l.place k u).step k op := by
  have hkeeps {op : ServiceOperation}
      (hop : Keeps l (l.step op) ∧ (l.step op).place k u = (l.place k u).step k op) :
      (l.step op).Owns k u ∧ (l.step op).place k u = (l.place k u).step k op :=
    ⟨h.keeps hop.1, hop.2⟩
  cases op with
  | register ready budget failing => exact place_connect_other h _
  | broadcast e => exact hkeeps (place_broadcast h.toAlone e)
  | writable id => exact hkeeps (h.single fun t ht => acts_onWritable ht)
  | remove id reason => exact hkeeps (h.single fun t ht => acts_remove ht reason)
  | closeAll => exact hkeeps (place_closeAll h.toAlone)
  | adjust id setting =>
    -- No setting of a recorder changes a channel, whichever number it is set for; no client has a
    -- part in it, so the change is one of this client's transport or of another one's.
    have hsame : (l.place k u).modify setting.apply = l.place k u := Seat.modify_apply hch setting
    have hacts := acts_modify l (if u = id then k else k + 1) id setting.apply
    have hku : k = (if u = id then k else k + 1) ↔ u = id := by
      split <;> simp [*]
    refine hkeeps ⟨hacts.toKeeps, (hacts.place k u hku).trans ?_⟩
    rw [Seat.step, hsame, ite_self, ite_self]

end Live

end Sentinel
