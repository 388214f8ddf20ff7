import Mathlib.Data.List.Induction
import Sentinel.Proofs.Streaming.History
/-!
# Runs of a streaming service

A run is any row of operations: clients come, each with a recorder of its own, events are broadcast,
clients become writable, are removed or are all shut, and recorders are set to other ways of taking
frames, in any order and with any client numbers. So a run is a history in which nobody shares a transport.

1. `act_general`: an operation of a run is one of a history.
2. `isSound_run`: the clients of a run have transports and numbers of their own.
3. `seat_step`, `seat_run`: what a run does to a client is what its operations do to the seat of the
   client, one after the other, from the registration on.
4. `exists_register`: every registered client was registered by some operation of the run.
-/

namespace Sentinel

/-- A way in which a recorder is set from outside. -/
inductive RecorderSetting where
  | ready (ready : Bool)
  | budget (writes : Option Nat)
  | failing (failing : Bool)
deriving DecidableEq, Repr

def RecorderSetting.apply : RecorderSetting → Transport → Transport
  | .ready isReady, .recorder r => .recorder { r with ready := isReady }
  | .budget writes, .recorder r => .recorder { r with budget := writes }
  | .failing isFailing, .recorder r => .recorder { r with failing := isFailing }
  | _, .channel c => .channel c

theorem RecorderSetting.apply_channel (setting : RecorderSetting) (ch : Channel) :
    setting.apply (.channel ch) = .channel ch := by
  cases setting <;> rfl

/-- An operation on a streaming service. A client that completes, times out or breaks off is removed
for that reason. -/
inductive ServiceOperation where
  | register (ready : Bool) (budget : Option Nat) (failing : Bool)
  | broadcast (e : StreamEvent)
  | writable (id : ClientId)
  | remove (id : ClientId) (reason : ClosedReason)
  | closeAll
  | adjust (id : ClientId) (setting : RecorderSetting)
deriving DecidableEq, Repr

/-- The operation on a registry in general: clients come with recorders, and are visited in the order in
which they came. -/
def ServiceOperation.general : ServiceOperation → ClientOperation
  | register ready budget failing => .connect (.recorder { ready, budget, failing })
  | broadcast e => .broadcast .bySeniority e
  | writable id => .writable id
  | remove id reason => .remove id reason
  | closeAll => .closeAll .bySeniority
  | adjust id setting => .change id setting.apply

theorem ServiceOperation.not_isJoin_general (op : ServiceOperation) : ¬op.general.IsJoin := by
  cases op <;> exact id

namespace Live

def step (l : Live) : ServiceOperation → Live
  | .register ready budget failing => (l.connect (.recorder { ready, budget, failing })).2
  | .broadcast e => (l.broadcast e).2
  | .writable id => l.onWritable id
  | .remove id reason => (l.remove id reason).2
  | .closeAll => l.closeAll
  | .adjust id setting => { l with connections := l.connections.modify id setting.apply }

def run (ops : List ServiceOperation) : Live := ops.foldl step empty

end Live

namespace Seat

/-- What an operation does to the seat of a client that was registered before. -/
def step (id : ClientId) (s : Seat) : ServiceOperation → Seat
  | .register _ _ _ => s
  | .broadcast e => s.deliver e
  | .writable k => if id = k then s.onWritable else s
  | .remove k reason => if id = k then s.remove reason else s
  | .closeAll => s.shut
  | .adjust k setting => if id = k then s.modify setting.apply else s

/-- To a client that was registered before, an operation means what it means in general. -/
theorem step_general (s : Seat) {k next : ClientId} (hk : k < next) (op : ServiceOperation) :
    (op.general.own? k next).elim s (s.own k) = s.step k op := by
  cases op with
  | register ready budget failing =>
    rw [ServiceOperation.general, ClientOperation.own?, if_neg (Nat.ne_of_lt hk)]
    rfl
  | broadcast e | closeAll => rfl
  | writable id | remove id reason | adjust id setting =>
    rw [ServiceOperation.general, ClientOperation.own?, step]
    split <;> rfl

/-- To a client that is gone an operation does nothing, except that its recorder may be set anew. -/
theorem step_of_gone {s : Seat} {id : ClientId} (h : s.client? = none) (op : ServiceOperation) :
    s.step id op = s ∨ ∃ setting : RecorderSetting, s.step id op = s.modify setting.apply := by
  cases op with
  | register ready budget failing => exact .inl rfl
  | broadcast e => exact .inl (by rw [step, deliver, h])
  | writable k => exact .inl (by rw [step, onWritable, h, ite_self])
  | remove k reason => exact .inl (by rw [step, remove, h, ite_self])
  | closeAll => exact .inl (by rw [step, shut, h])
  | adjust k setting =>
    rw [step]
    split
    · exact .inr ⟨setting, rfl⟩
    · exact .inl rfl

theorem modify_apply {s : Seat} {ch : Channel} (h : s.transport? = some (.channel ch))
    (setting : RecorderSetting) : s.modify setting.apply = s := by
  rw [modify, h, Option.map_some, setting.apply_channel, ← h]

end Seat

namespace Live

variable {l : Live} {k : ClientId}

theorem act_general (l : Live) (op : ServiceOperation) : l.act op.general = l.step op := by
  cases op <;> rfl

theorem isSound_step (h : l.IsSound) (op : ServiceOperation) : (l.step op).IsSound := by
  rw [← act_general]
  exact (seat_act h op.not_isJoin_general).1

theorem lt_issued_step (h : l.IsSound) (op : ServiceOperation) :
    k < (l.step op).connections.issued ↔ k < l.connections.issued ∨
      ∃ ready budget failing, op = .register ready budget failing ∧ k = l.connections.issued := by
  rw [← act_general, (seat_act h op.not_isJoin_general).2.1]
  cases op with
  | register ready budget failing =>
    rw [ServiceOperation.general, ClientOperation.next, Nat.lt_succ_iff_lt_or_eq]
    exact or_congr_right ⟨fun hk => ⟨ready, budget, failing, rfl, hk⟩, fun ⟨_, _, _, _, hk⟩ => hk⟩
  | _ => simp [ServiceOperation.general, ClientOperation.next]

/-- An operation does to the seat of a client that is known what it does to a seat by itself. -/
theorem seat_step (h : l.IsSound) (hk : k < l.connections.issued) (op : ServiceOperation) :
    (l.step op).seat k = (l.seat k).step k op := by
  rw [← act_general, (seat_act h op.not_isJoin_general).2.2 k]
  exact (l.seat k).step_general hk op

theorem run_append (before after : List ServiceOperation) :
    run (before ++ after) = after.foldl step (run before) := List.foldl_append

theorem isSound_run (ops : List ServiceOperation) : (run ops).IsSound := by
  induction ops using List.reverseRecOn with
  | nil => exact isSound_empty
  | append_singleton ops op ih =>
    rw [run_append]
    exact isSound_step ih op

theorem seat_foldl_step (h : l.IsSound) (hk : k < l.connections.issued) (ops : List ServiceOperation) :
    (ops.foldl step l).seat k = ops.foldl (Seat.step k) (l.seat k) := by
  induction ops generalizing l with
  | nil => rfl
  | cons op ops ih =>
    have hlt : k < (l.step op).connections.issued := (lt_issued_step h op).mpr (.inl hk)
    rw [List.foldl_cons, List.foldl_cons, ih (isSound_step h op) hlt, seat_step h hk op]

/-- From its registration on, the seat of a client is changed by each operation by itself. -/
theorem seat_run (before after : List ServiceOperation) (ready : Bool) (budget : Option Nat)
    (failing : Bool) :
    let k := (run before).connections.issued
    (run (before ++ .register ready budget failing :: after)).seat k =
      after.foldl (Seat.step k)
        (((run before).seat k).opened k (.recorder { ready, budget, failing })) := by
  intro k
  obtain ⟨hsound, hissued, hseat⟩ :=
    seat_connect (isSound_run before) (.recorder { ready, budget, failing })
  have hk : k < ((run before).step (.register ready budget failing)).connections.issued :=
    hissued ▸ Nat.lt_succ_self _
  rw [run_append, List.foldl_cons]
  refine (seat_foldl_step hsound hk after).trans ?_
  rw [hseat k, if_pos rfl]

/-- Every client that is known at the end was registered somewhere on the way. -/
theorem exists_register (ops : List ServiceOperation) (hk : k < (run ops).connections.issued) :
    ∃ before ready budget failing after,
      ops = before ++ .register ready budget failing :: after ∧
        k = (run before).connections.issued := by
  induction ops using List.reverseRecOn with
  | nil => exact absurd hk (Nat.not_lt_zero k)
  | append_singleton ops op ih =>
    rw [run_append] at hk
    rcases (lt_issued_step (isSound_run ops) op).mp hk with hlt | ⟨ready, budget, failing, rfl, heq⟩
    · obtain ⟨before, ready, budget, failing, after, rfl, heq⟩ := ih hlt
      refine ⟨before, ready, budget, failing, after ++ [op], ?_, heq⟩
      rw [List.append_assoc, List.cons_append]
    · exact ⟨ops, ready, budget, failing, [], rfl, heq⟩

end Live

end Sentinel
