import Mathlib.Data.List.Induction
import Sentinel.Proofs.Streaming.Account
/-!
# The life of a streaming client

A client is registered once, is then given what is broadcast, and is taken away at most once. From its
registration on it is open: each event that was broadcast was taken by its transport or waits in its
queue. Once it is gone, nothing is called for it any more, and one entry of the audit trail says why it
went and how many events it left behind.

1. `IsOpen.step`: an operation leaves an open client open or takes it away.
2. `foldl_act_of_isOpen`: so does a row of operations, with one operation that takes it away.
3. `life`: the life of any client in any history.
-/

namespace Sentinel

open TransportCall (taken lost taken_append lost_append lost_of_isFine)

namespace Account

/-- A client is registered, and these events have been broadcast to it: the first ones were taken by its
transport and the others wait in its queue. No call for it has met with an error. -/
structure IsOpen (a : Account) (es : List StreamEvent) : Prop where
  client : ∃ c, a.client? = some c ∧
    taken a.calls ++ c.queue.map StreamEvent.wire = es.map StreamEvent.wire
  closings : a.closings = []
  calls : ∀ call ∈ a.calls, call.IsFine

/-- The last calls for a client that an operation takes away: none when it is only removed; its transport
is ended when the service ends, and when a call has met with an error just before. -/
inductive Farewell (k : ClientId) (op : ClientOperation) : List TransportCall → Prop where
  | removed {reason : ClosedReason} (hop : op = .remove k reason) : Farewell k op []
  | shut {order : VisitingOrder} (hop : op = .closeAll order) : Farewell k op [.complete]
  | failed {call : TransportCall} (hop : op.reason = .error) (h : call.Fails) :
    Farewell k op [call, .complete]

/-- A client is gone, taken away by an operation, and these events had been broadcast to it: the first
ones were taken, one may have been lost, and the others were left behind, as the audit trail says. -/
structure IsClosed (a : Account) (k : ClientId) (op : ClientOperation) (es : List StreamEvent) : Prop where
  client : a.client? = none
  closings : ∃ left : List String, a.closings = [(op.reason, left.length)] ∧
    taken a.calls ++ lost a.calls ++ left = es.map StreamEvent.wire
  calls : ∃ fine last, a.calls = fine ++ last ∧ (∀ call ∈ fine, call.IsFine) ∧ Farewell k op last

variable {k : ClientId} {op : ClientOperation} {a a' : Account} {es : List StreamEvent}

theorem IsOpen.remove {c : Client} {reason : ClosedReason} (h : a.IsOpen es)
    (hc : a.client? = some c) (hop : op = .remove k reason) : (a.remove op.reason).IsClosed k op es := by
  obtain ⟨c', hc', hframes⟩ := h.client
  obtain rfl : c = c' := Option.some.inj (hc.symm.trans hc')
  rw [Account.remove, hc]
  refine ⟨rfl, ⟨c.queue.map StreamEvent.wire, ?_, ?_⟩,
    a.calls, [], (List.append_nil _).symm, h.calls, .removed hop⟩
  · rw [h.closings, List.length_map]
    rfl
  · show taken a.calls ++ lost a.calls ++ _ = _
    rw [lost_of_isFine h.calls, List.append_nil]
    exact hframes

theorem IsOpen.shut {c : Client} {order : VisitingOrder} (h : a.IsOpen es) (hc : a.client? = some c)
    (hop : op = .closeAll order) : ((a.remove op.reason).note [.complete]).IsClosed k op es := by
  obtain ⟨c', hc', hframes⟩ := h.client
  obtain rfl : c = c' := Option.some.inj (hc.symm.trans hc')
  rw [Account.remove, hc]
  refine ⟨rfl, ⟨c.queue.map StreamEvent.wire, ?_, ?_⟩, a.calls, [.complete], rfl, h.calls, .shut hop⟩
  · show a.closings ++ _ = _
    rw [h.closings, List.length_map]
    rfl
  · show taken (a.calls ++ [.complete]) ++ lost (a.calls ++ [.complete]) ++ _ = _
    rw [taken_append, lost_append, lost_of_isFine h.calls]
    show taken a.calls ++ [] ++ [] ++ _ = _
    rw [List.append_nil, List.append_nil]
    exact hframes

theorem IsOpen.drain {c : Client} (h : a.IsOpen es) (hc : a.client? = some c) (t : Transport)
    (heard : List StreamEvent) (hop : op.reason = .error) :
    let q := c.queue ++ heard
    let a' := a.drain { c with queue := q } (drainQueue t q)
    a'.IsOpen (es ++ heard) ∨ a'.IsClosed k op (es ++ heard) := by
  intro q
  obtain ⟨c', hc', hframes⟩ := h.client
  obtain rfl : c = c' := Option.some.inj (hc.symm.trans hc')
  obtain ⟨hqueue, -, hending⟩ := accounts_drainQueue t q
  have hall : taken a.calls ++ q.map StreamEvent.wire = (es ++ heard).map StreamEvent.wire := by
    rw [List.map_append, List.map_append, ← List.append_assoc, hframes]
  rw [Account.drain, hc]
  generalize drainQueue t q = d at hqueue hending ⊢
  obtain ⟨queue, t', failure, calls⟩ := d
  dsimp only at hqueue hending ⊢
  rcases hending with ⟨rfl, hfine⟩ | ⟨hsome, fine, call, rfl, hfine, hfails⟩
  · -- Without a failure frames only go from the queue to those that were taken.
    refine .inl ⟨⟨_, rfl, ?_⟩, h.closings, ?_⟩
    · show taken (a.calls ++ calls) ++ queue.map StreamEvent.wire = _
      rw [lost_of_isFine hfine, List.append_nil] at hqueue
      rw [taken_append, List.append_assoc, hqueue]
      exact hall
    · exact fun call hcall => (List.mem_append.mp hcall).elim (h.calls call) (hfine call)
  · obtain ⟨e, rfl⟩ := Option.ne_none_iff_exists'.mp hsome
    -- The failure comes last. It takes the client away with what is left of the queue.
    refine .inr ⟨rfl, ⟨queue.map StreamEvent.wire, ?_, ?_⟩, a.calls ++ fine, [call, .complete], ?_, ?_,
      .failed hop hfails⟩
    · show a.closings ++ [(.error, queue.length)] = _
      rw [h.closings, List.length_map, hop]
      rfl
    · show taken (a.calls ++ (fine ++ [call]) ++ [.complete]) ++
        lost (a.calls ++ (fine ++ [call]) ++ [.complete]) ++ _ = _
      rw [taken_append, taken_append a.calls, lost_append, lost_append a.calls, lost_of_isFine h.calls]
      show taken a.calls ++ taken (fine ++ [call]) ++ [] ++ ([] ++ lost (fine ++ [call]) ++ []) ++ _ = _
      rw [List.append_nil, List.append_nil, List.nil_append, List.append_assoc, List.append_assoc,
        ← List.append_assoc (taken (fine ++ [call])), hqueue]
      exact hall
    · show a.calls ++ (fine ++ [call]) ++ [.complete] = _
      simp
    · exact fun call hcall => (List.mem_append.mp hcall).elim (h.calls call) (hfine call)

/-- An open client stays open, with what the operation broadcasts, or is taken away by the operation. -/
theorem IsOpen.step (h : a.IsOpen es) (hs : Step k op a a') :
    a'.IsOpen (es ++ op.heard) ∨ a'.IsClosed k op (es ++ op.heard) := by
  have hquiet {es' : List StreamEvent} (hop : op.heard = []) : es' ++ op.heard = es' := by
    rw [hop, List.append_nil]
  cases hs with
  | gone hc =>
    obtain ⟨c, hc', -⟩ := h.client
    cases hc.symm.trans hc'
  | spared hop =>
    rw [hquiet hop]
    exact .inl h
  | drained t hc hop => exact h.drain hc t op.heard hop
  | removed hc hop =>
    rw [hquiet (by rw [hop]; rfl)]
    exact .inr (h.remove hc hop)
  | shut hc hop =>
    rw [hquiet (by rw [hop]; rfl)]
    exact .inr (h.shut hc hop)

end Account

namespace Live

variable {l : Live} {k : ClientId} {es : List StreamEvent}

/-- An operation changes the account of a client that is known only as it can. -/
theorem step_act (h : l.IsProper) (hk : k < l.connections.issued) (op : ClientOperation) :
    Account.Step k op (l.account k) ((l.act op).account k) ∧ k < (l.act op).connections.issued := by
  obtain ⟨haccount, hissued⟩ := account_act h op k
  refine ⟨haccount.resolve_left fun hnew => Nat.ne_of_lt hk hnew.next, ?_⟩
  rcases hissued with hsame | hnew
  · rw [hsame]
    exact hk
  · rw [hnew.issued]
    exact Nat.lt_succ_of_lt hk

theorem account_foldl_of_gone (h : l.IsProper) (hk : k < l.connections.issued)
    (hgone : (l.account k).client? = none) (ops : List ClientOperation) :
    (ops.foldl act l).account k = l.account k := by
  induction ops generalizing l with
  | nil => rfl
  | cons op ops ih =>
    obtain ⟨hstep, hk'⟩ := step_act h hk op
    have hsame := hstep.eq_of_gone hgone
    rw [List.foldl_cons, ih (isProper_act h op) hk' (hsame ▸ hgone), hsame]

/-- What a row of operations does to an open client: it is still open, with all that was broadcast, or
one of the operations takes it away, and nothing changes from there on. -/
theorem foldl_act_of_isOpen (h : l.IsProper) (hk : k < l.connections.issued)
    (hopen : (l.account k).IsOpen es) (ops : List ClientOperation) :
    ((ops.foldl act l).account k).IsOpen (es ++ heard ops) ∨
      ∃ middle op rest, ops = middle ++ op :: rest ∧
        ((middle.foldl act l).account k).IsOpen (es ++ heard middle) ∧
        (((middle ++ [op]).foldl act l).account k).IsClosed k op (es ++ heard (middle ++ [op])) ∧
        ∀ more, ((middle ++ op :: more).foldl act l).account k =
          ((middle ++ [op]).foldl act l).account k := by
  -- By induction on the operations; the first one that takes the client away ends its life.
  induction ops generalizing l es with
  | nil => exact .inl (by simpa [heard] using hopen)
  | cons op ops ih =>
    obtain ⟨hstep, hk'⟩ := step_act h hk op
    have hproper := isProper_act h op
    have hcons (ops : List ClientOperation) : es ++ op.heard ++ heard ops = es ++ heard (op :: ops) :=
      List.append_assoc _ _ _
    rcases hopen.step hstep with hopen' | hclosed
    · rcases ih hproper hk' hopen' with hstill | ⟨middle, last, rest, rfl, hmiddle, hlast, hafter⟩
      · rw [hcons] at hstill
        exact .inl hstill
      · rw [hcons] at hmiddle hlast
        exact .inr ⟨op :: middle, last, rest, rfl, hmiddle, hlast, hafter⟩
    · refine .inr ⟨[], op, ops, rfl, by simpa [heard] using hopen, by simpa [heard] using hclosed, ?_⟩
      exact fun more => account_foldl_of_gone hproper hk' hclosed.client more

theorem account_history_of_le (ops : List ClientOperation) (k : ClientId)
    (hk : (history ops).connections.issued ≤ k) : (history ops).account k = .vacant := by
  induction ops using List.reverseRecOn with
  | nil => rfl
  | append_singleton ops op ih =>
    rw [history_concat] at hk ⊢
    obtain ⟨haccount, hissued⟩ := account_act (isProper_history ops) op k
    have hle : (history ops).connections.issued ≤ k := by
      rcases hissued with hsame | hnew
      · exact hsame ▸ hk
      · rw [hnew.issued] at hk
        exact Nat.le_of_succ_le hk
    have hvacant := ih hle
    rcases haccount with hnew | hstep
    · rw [hnew.issued] at hk
      exact absurd hk (Nat.not_succ_le_self k)
    · exact (hstep.eq_of_gone (by rw [hvacant]; rfl)).trans hvacant

/-- Every client that is known at the end was registered by one of the operations, and was open then. -/
theorem exists_registers (ops : List ClientOperation) (hk : k < (history ops).connections.issued) :
    ∃ before op after, ops = before ++ op :: after ∧ (history before).Registers op k := by
  -- By induction from the end: the number was given out before the last operation, or by it.
  induction ops using List.reverseRecOn with
  | nil => exact absurd hk (Nat.not_lt_zero k)
  | append_singleton ops op ih =>
    rw [history_concat] at hk
    rcases Nat.lt_or_ge k (history ops).connections.issued with hlt | hge
    · obtain ⟨before, first, after, rfl, hfirst⟩ := ih hlt
      exact ⟨before, first, after ++ [op], by simp, hfirst⟩
    · obtain ⟨-, hsame | hnew⟩ := account_act (isProper_history ops) op k
      · exact absurd hk (Nat.not_lt.mpr (hsame ▸ hge))
      · rw [hnew.issued] at hk
        have hle : k ≤ (history ops).connections.issued := Nat.le_of_lt_succ hk
        exact ⟨ops, op, [], rfl, Nat.le_antisymm hle hge ▸ hnew⟩

/-- The life of a client from its registration on: it is open to the end, or one of the operations takes
it away and its account does not change any more. -/
theorem life {before : List ClientOperation} {first : ClientOperation}
    (hfirst : (history before).Registers first k) (after : List ClientOperation) :
    ((history (before ++ first :: after)).account k).IsOpen (heard after) ∨
      ∃ middle op rest, after = middle ++ op :: rest ∧
        ((history (before ++ first :: middle)).account k).IsOpen (heard middle) ∧
        ((history (before ++ first :: (middle ++ [op]))).account k).IsClosed k op
          (heard (middle ++ [op])) ∧
        ∀ more, (history (before ++ first :: (middle ++ op :: more))).account k =
          (history (before ++ first :: (middle ++ [op]))).account k := by
  have hvacant : (history before).account k = .vacant :=
    account_history_of_le before k (Nat.le_of_eq hfirst.next.symm)
  obtain ⟨u, hopened⟩ := hfirst.opened
  have hopen : (((history before).act first).account k).IsOpen [] := by
    rw [hopened, hvacant]
    exact ⟨⟨_, rfl, rfl⟩, rfl, fun call hcall => absurd hcall List.not_mem_nil⟩
  have hk : k < ((history before).act first).connections.issued := by
    rw [hfirst.issued]
    exact Nat.lt_succ_self k
  simp only [history_append before, List.foldl_cons]
  exact foldl_act_of_isOpen (isProper_act (isProper_history before) first) hk hopen after

end Live

end Sentinel
