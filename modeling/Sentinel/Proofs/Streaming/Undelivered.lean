import Sentinel.Proofs.Streaming.Life
/-!
# What a client left behind

The end of a client is recorded with the number of events that still waited for it. With what its
transport took they are all that was broadcast while the client was there, but for one case: an event is
out of the queue before it is written, so the event whose write fails is in neither number.

1. `Account.IsClosed.lost_calls`: nothing is lost of a client that is gone, or the frame whose write was
   the last one, and failed.
2. `closing_accounts`: the account of every client that is gone.
-/

namespace Sentinel

open TransportCall (taken lost lost_append lost_of_isFine)

namespace Account

variable {k : ClientId} {op : ClientOperation} {a : Account} {es : List StreamEvent}

theorem IsClosed.lost_calls (h : a.IsClosed k op es) :
    lost a.calls = [] ∨ op.reason = .error ∧ ∃ fine frame failure,
      a.calls = fine ++ [.write frame (some failure), .complete] ∧ lost a.calls = [frame] := by
  obtain ⟨fine, last, hcalls, hfine, hlast⟩ := h.calls
  have hlost : lost a.calls = lost last := by rw [hcalls, lost_append, lost_of_isFine hfine, List.nil_append]
  rw [hlost]
  cases hlast with
  | removed hop => exact .inl rfl
  | shut hop => exact .inl rfl
  | @failed call hop hfails =>
    cases call with
    | write frame failure =>
      obtain ⟨f, rfl⟩ := Option.ne_none_iff_exists'.mp hfails
      exact .inr ⟨hop, fine, frame, f, hcalls, rfl⟩
    | flush failure => exact .inl rfl
    | complete => exact absurd hfails id

end Account

namespace Live

variable {before after : List ClientOperation} {first : ClientOperation} {k : ClientId}

theorem registers_of_issued (hold : (history before).connections.issued = k)
    (hnew : (history (before ++ [first])).connections.issued = k + 1) :
    (history before).Registers first k := by
  rw [history_concat] at hnew
  obtain ⟨-, hsame | hregisters⟩ := account_act (isProper_history before) first k
  · omega
  · exact hold ▸ hregisters

/-- A client comes with one operation of a history and is gone at its end. Then one operation took it
away. What its transport took until then, what was lost, and what it left behind, of which the audit
trail has the number, are in this order all that was broadcast while the client was there. So the two
numbers make up the whole, or the client went because a write failed, and the one event of that write is
missing. What is taken is what the transports get. -/
theorem closing_accounts (hold : (history before).connections.issued = k)
    (hnew : (history (before ++ [first])).connections.issued = k + 1)
    (hgone : (history (before ++ first :: after)).registry.find? k = none) :
    (∃ middle op rest left, after = middle ++ op :: rest ∧
      (history (before ++ first :: middle)).registry.find? k ≠ none ∧
      (history (before ++ first :: (middle ++ [op]))).registry.find? k = none ∧
      let a := (history (before ++ first :: after)).account k
      let es := heard (middle ++ [op])
      a.closings = [(op.reason, left.length)] ∧
        taken a.calls ++ lost a.calls ++ left = es.map StreamEvent.wire ∧
        (es.length = (taken a.calls).length + left.length ∨
          es.length = (taken a.calls).length + left.length + 1 ∧ op.reason = .error ∧
            ∃ fine frame failure, a.calls = fine ++ [.write frame (some failure), .complete])) ∧
      ∀ t q, (drainQueue t q).transport.frames = t.frames ++ taken (drainQueue t q).calls := by
  refine ⟨?_, fun t q => (accounts_drainQueue t q).kept⟩
  have hfirst := registers_of_issued hold hnew
  rcases life hfirst after with hopen | ⟨middle, op, rest, rfl, hopen, hclosed, hstill⟩
  · -- A client that is gone in the end is not open in the end.
    obtain ⟨c, hc, -⟩ := hopen.client
    cases hc.symm.trans hgone
  obtain ⟨c, hc, -⟩ := hopen.client
  obtain ⟨left, hclosings, hframes⟩ := hclosed.closings
  refine ⟨middle, op, rest, left, rfl, ?_, hclosed.client, ?_⟩
  · exact fun hnone => Option.some_ne_none c (hc.symm.trans hnone)
  rw [hstill rest]
  refine ⟨hclosings, hframes, ?_⟩
  have hlength := congrArg List.length hframes
  rw [List.length_append, List.length_append, List.length_map] at hlength
  rcases hclosed.lost_calls with hnone | ⟨hreason, fine, frame, failure, hcalls, hone⟩
  · rw [hnone, List.length_nil, Nat.add_zero] at hlength
    exact .inl hlength.symm
  · rw [hone, List.length_singleton] at hlength
    exact .inr ⟨by omega, hreason, fine, frame, failure, hcalls⟩

/-- Four events are broadcast while a transport is not ready; then it takes one and fails at the next. -/
def interrupted : List ClientOperation :=
  [.broadcast .bySeniority ⟨"t", "0"⟩, .broadcast .bySeniority ⟨"t", "1"⟩,
    .broadcast .bySeniority ⟨"t", "2"⟩, .broadcast .bySeniority ⟨"t", "3"⟩,
    .change 0 fun _ => .recorder { failsAfter := some 1 }, .writable 0]

/-- One event was taken, two were left behind, and one is missing. -/
theorem closing_accounts_interrupted :
    let a := (history (.connect (.recorder { ready := false }) :: interrupted)).account 0
    a.closings = [(.error, 2)] ∧ taken a.calls = [StreamEvent.wire ⟨"t", "0"⟩] ∧
      ∃ middle op, middle ++ [op] <+: interrupted ∧ (heard (middle ++ [op])).length = 1 + 2 + 1 := by
  intro a
  have hclosings : a.closings = [(.error, 2)] := by decide +kernel
  have htaken : taken a.calls = [StreamEvent.wire ⟨"t", "0"⟩] := by decide +kernel
  have hlost : lost a.calls = [StreamEvent.wire ⟨"t", "1"⟩] := by decide +kernel
  have hgone : (history (.connect (.recorder { ready := false }) :: interrupted)).registry.find? 0 =
      none := by decide +kernel
  refine ⟨hclosings, htaken, ?_⟩
  obtain ⟨⟨middle, op, rest, left, hafter, -, -, hleft, hframes, -⟩, -⟩ :=
    @closing_accounts [] interrupted _ 0 rfl rfl hgone
  refine ⟨middle, op, ⟨rest, by rw [hafter]; simp⟩, ?_⟩
  have htwo : left.length = 2 := by
    have hnumber := hleft.symm.trans hclosings
    exact (Prod.mk.inj (List.cons.inj hnumber).1).2
  have hlength := congrArg List.length hframes
  rw [List.length_append, List.length_append, List.length_map] at hlength
  rw [← hlength]
  show (taken a.calls).length + (lost a.calls).length + left.length = _
  rw [htaken, hlost, htwo]
  rfl

/-- The event whose write fails is neither taken nor counted as left behind. -/
theorem closing_misses_failed_write :
    let e : StreamEvent := ⟨"t", "0"⟩
    let a := (history [.connect (.recorder { failing := true }), .broadcast .bySeniority e]).account 0
    ∃ undelivered, a.closings = [(.error, undelivered)] ∧
      (heard [.broadcast .bySeniority e]).length ≠ (taken a.calls).length + undelivered := by
  refine ⟨0, by decide +kernel, ?_⟩
  have htaken : taken ((history [.connect (.recorder { failing := true }),
      .broadcast .bySeniority ⟨"t", "0"⟩]).account 0).calls = [] := by decide +kernel
  intro hsum
  rw [htaken] at hsum
  exact absurd hsum (by decide)

end Live

end Sentinel
