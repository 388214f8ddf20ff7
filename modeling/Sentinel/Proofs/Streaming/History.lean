import Sentinel.Proofs.Streaming.Registration
/-!
# Histories of a registry

A history is any row of operations on a registry and on the transports of its clients. A client comes
with a transport of its own or shares one that is there; the clients are visited in any order; and a
transport may change from outside in any way between two operations, as when it stalls, breaks, or is
read from.

1. `keeps_act`: an operation that brings no client leaves the others their numbers and transports.
2. `isProper_act`, `isProper_history`: in no history do two clients share a number.
3. `seat_act`: where nobody shares a transport, an operation does to each client what it means to it.
-/

namespace Sentinel

/-- An operation on a registry, or a change of a transport. A client that completes, times out or breaks
off is removed for that reason. -/
inductive ClientOperation where
  | connect (t : Transport)
  | join (u : TransportId)
  | broadcast (order : VisitingOrder) (e : StreamEvent)
  | writable (id : ClientId)
  | remove (id : ClientId) (reason : ClosedReason)
  | closeAll (order : VisitingOrder)
  | change (u : TransportId) (f : Transport → Transport)

/-- What happens to one client: it is registered, hears a broadcast, becomes writable, is removed or shut
with the others, or its transport changes from outside. -/
inductive OwnOperation where
  | register (t : Transport)
  | broadcast (e : StreamEvent)
  | writable
  | remove (reason : ClosedReason)
  | closeAll
  | change (f : Transport → Transport)

namespace ClientOperation

def heard : ClientOperation → List StreamEvent
  | broadcast _ e => [e]
  | _ => []

/-- The reason for which the operation removes a client, if it removes one: an error, if it is not the
operation that says why. -/
def reason : ClientOperation → ClosedReason
  | remove _ reason => reason
  | closeAll _ => .shutdown
  | _ => .error

/-- The operation may bring a client. -/
def brings : ClientOperation → Bool
  | connect _ | join _ => true
  | _ => false

/-- What an operation means to a client, when a given number is the next to be given out. A client that
comes with a transport of its own has the transport with its number. -/
def own? (k next : ClientId) : ClientOperation → Option OwnOperation
  | connect t => if k = next then some (.register t) else none
  | join _ => none
  | broadcast _ e => some (.broadcast e)
  | writable id => if k = id then some .writable else none
  | remove id reason => if k = id then some (.remove reason) else none
  | closeAll _ => some .closeAll
  | change u f => if k = u then some (.change f) else none

/-- The number that is the next one behind an operation. -/
def next (n : ClientId) : ClientOperation → ClientId
  | connect _ => n + 1
  | _ => n

/-- A client comes to share a transport. -/
def IsJoin : ClientOperation → Prop
  | join _ => True
  | _ => False

end ClientOperation

def heard (ops : List ClientOperation) : List StreamEvent := ops.flatMap ClientOperation.heard

namespace Seat

/-- What an operation of its own does to the seat of a client. -/
def own (k : ClientId) (s : Seat) : OwnOperation → Seat
  | .register t => s.opened k t
  | .broadcast e => s.deliver e
  | .writable => s.onWritable
  | .remove reason => s.remove reason
  | .closeAll => s.shut
  | .change f => s.modify f

end Seat

namespace Live

/-- The state behind an operation. A client comes to share only a transport that there is. -/
def act (l : Live) : ClientOperation → Live
  | .connect t => (l.connect t).2
  | .join u => if u < l.connections.transports.length then (l.register u).2 else l
  | .broadcast order e => (l.broadcastIn order e).2
  | .writable id => l.onWritable id
  | .remove id reason => (l.remove id reason).2
  | .closeAll order => l.closeAllIn order
  | .change u f => { l with connections := l.connections.modify u f }

/-- The state behind a row of operations on a registry that starts without clients. -/
def history (ops : List ClientOperation) : Live := ops.foldl act empty

variable {l : Live}

theorem history_append (before after : List ClientOperation) :
    history (before ++ after) = after.foldl act (history before) := List.foldl_append

theorem history_concat (before : List ClientOperation) (op : ClientOperation) :
    history (before ++ [op]) = (history before).act op := history_append before [op]

theorem keeps_act (h : l.IsProper) {op : ClientOperation} (hop : op.brings = false) :
    Keeps l (l.act op) := by
  cases op with
  | connect t | join u => cases hop
  | broadcast order e => exact (place_broadcastIn h.alone_next order e).1
  | writable id => exact (h.alone_next.single fun t ht => acts_onWritable ht).1
  | remove id reason => exact (h.alone_next.single fun t ht => acts_remove ht reason).1
  | closeAll order => exact (place_closeAllIn h.alone_next order).1
  | change u f => exact (acts_modify l l.connections.issued u f).toKeeps

theorem isProper_act (h : l.IsProper) (op : ClientOperation) : (l.act op).IsProper := by
  cases op with
  | connect t => exact isProper_connect h t
  | join u =>
    rw [act]
    split
    · next hu => exact isProper_register h hu
    · exact h
  | _ => exact h.keeps (keeps_act h rfl)

theorem isProper_foldl_act (h : l.IsProper) (ops : List ClientOperation) :
    (ops.foldl act l).IsProper := by
  induction ops generalizing l with
  | nil => exact h
  | cons op ops ih => exact ih (isProper_act h op)

theorem isProper_history (ops : List ClientOperation) : (history ops).IsProper :=
  isProper_foldl_act isSound_empty.isProper ops

/-! ## Clients with transports of their own -/

/-- What is done to one client alone is what it means to each. -/
theorem Moves.own {l' : Live} {id : ClientId} {o : OwnOperation} {f : Seat → Seat}
    (h : Moves id f l l') (hown : ∀ k s, Seat.own k s o = f s) (k : ClientId) :
    l'.seat k = (if k = id then some o else none).elim (l.seat k) ((l.seat k).own k) := by
  rw [h.seat k]
  split
  · exact (hown k _).symm
  · rfl

/-- An operation does to a client what it means to it, where each client has a transport of its own. -/
theorem seat_act (h : l.IsSound) {op : ClientOperation} (hop : ¬op.IsJoin) :
    (l.act op).IsSound ∧ (l.act op).connections.issued = op.next l.connections.issued ∧
      ∀ k, (l.act op).seat k = (op.own? k l.connections.issued).elim (l.seat k) ((l.seat k).own k) := by
  cases op with
  | connect t =>
    obtain ⟨hsound, hissued, hseat⟩ := seat_connect h t
    refine ⟨hsound, hissued, fun k => (hseat k).trans ?_⟩
    rw [ClientOperation.own?]
    split <;> rfl
  | join u => exact absurd trivial hop
  | broadcast order e =>
    have hkeeps : Keeps l (l.act (.broadcast order e)) := keeps_act h.isProper rfl
    exact ⟨h.keeps hkeeps, hkeeps.issued, fun k => (place_broadcastIn (h.alone k) order e).2⟩
  | writable id =>
    have hmoves := moves_onWritable h id
    exact ⟨hmoves.sound, hmoves.issued, hmoves.own fun _ _ => rfl⟩
  | remove id reason =>
    have hmoves := moves_remove h id reason
    exact ⟨hmoves.sound, hmoves.issued, hmoves.own fun _ _ => rfl⟩
  | closeAll order =>
    have hkeeps : Keeps l (l.act (.closeAll order)) := keeps_act h.isProper rfl
    exact ⟨h.keeps hkeeps, hkeeps.issued, fun k => (place_closeAllIn (h.alone k) order).2⟩
  | change u f =>
    have hmoves := moves_modify h u f
    exact ⟨hmoves.sound, hmoves.issued, hmoves.own fun _ _ => rfl⟩

end Live

end Sentinel
