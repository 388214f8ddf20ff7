import Sentinel.Proofs.Handlers.Roster
/-!
# Rounds

What comes of the rounds of a dispatcher, whatever happens in between. A round calls the handlers that
were attached when it began, each once and in order, with its result and whether or not others fail.

1. `Fans`: the calls of each round, what they did and what was recorded of them.
2. `roster_step`, `fans_step`, `keeps_run`: any operations in any order keep this and the roster.
3. `run_dispatch`: a round that nothing comes between is a dispatch.
-/

namespace Sentinel

variable {σ : Type}

namespace DeskEvent

/-- The call of a handler in a round. -/
def callIn? (i : Nat) : DeskEvent σ → Option (HandlerCall σ)
  | called k c => if k = i then some c else none
  | _ => none

/-- The result that set out, and what it is about. -/
def begun? : DeskEvent σ → Option (ScanResult × Subject)
  | begun _ r s => some (r, s)
  | _ => none

/-- What is recorded of a call that failed. -/
def failure? : DeskEvent σ → Option AuditEvent
  | called _ c => c.failure?.map (·.event c.subject)
  | _ => none

end DeskEvent

/-- The calls of a round. -/
def callsIn (i : Nat) (es : List (DeskEvent σ)) : List (HandlerCall σ) :=
  es.filterMap (DeskEvent.callIn? i)

/-- The handlers that were called, one after the other, do what became of the calls, and bring the sinks
from one state to another. A call for one of several values is one of the action for such values, and a
call for an only value one of the other action. -/
inductive Performs (start : σ) : List (DeskEvent σ) → σ → Prop where
  | nil : Performs start [] start
  | quiet {es : List (DeskEvent σ)} {sinks : σ} {e : DeskEvent σ} (h : Performs start es sinks)
    (he : ∀ i, e.callIn? i = none) : Performs start (es ++ [e]) sinks
  | single {es : List (DeskEvent σ)} {sinks sinks' : σ} {i : Nat} {c : HandlerCall σ}
    (h : Performs start es sinks) (hindex : c.subject.index = none)
    (hcall : (c.handler.single c.result c.subject.path c.subject.propertyType c.subject.userId).run.run
      sinks = (c.outcome, sinks')) :
    Performs start (es ++ [.called i c]) sinks'
  | indexed {es : List (DeskEvent σ)} {sinks sinks' : σ} {i index : Nat} {c : HandlerCall σ}
    (h : Performs start es sinks) (hindex : c.subject.index = some index)
    (hcall : (c.handler.indexed c.result c.subject.path index c.subject.propertyType
      c.subject.userId).run.run sinks = (c.outcome, sinks')) :
    Performs start (es ++ [.called i c]) sinks'

/-- The calls of a round so far: its first handlers in their order, each with the result of the round;
their number and their failures are kept. -/
structure Round.Accounts (round : Round σ) (calls : List (HandlerCall σ)) : Prop where
  order : calls.map (·.handler) ++ round.pending = round.handlers
  same : ∀ c ∈ calls, c.result = round.result ∧ c.subject = round.subject
  handled : round.handled = calls.length
  failures : round.failures = calls.filterMap HandlerCall.failure?

/-- What was done and recorded in all rounds. There is a round for each dispatch, with the handlers that
were attached then. -/
structure Fans (start : σ) (es : List (DeskEvent σ)) (d : Desk σ) : Prop where
  dispatches : d.rounds.map (fun round => (round.result, round.subject)) = es.filterMap DeskEvent.begun?
  begun : ∀ (i : Nat) (round : Round σ), d.rounds[i]? = some round → ∃ before after,
    es = before ++ .begun i round.result round.subject :: after ∧
      round.handlers = (standing before).map (·.2)
  accounts : ∀ (i : Nat) (round : Round σ), d.rounds[i]? = some round → round.Accounts (callsIn i es)
  fresh : ∀ i, d.rounds.length ≤ i → callsIn i es = []
  trail : d.trail = es.filterMap DeskEvent.failure?
  sinks : Performs start es d.sinks

theorem Round.Accounts.advance {round : Round σ} {calls : List (HandlerCall σ)} {h : Handler σ}
    {rest : List (Handler σ)} (ha : round.Accounts calls) (hpending : round.pending = h :: rest)
    (outcome : Except (Fault HandlerError) Unit) :
    let c : HandlerCall σ := ⟨h, round.result, round.subject, outcome⟩
    (round.advance c rest).Accounts (calls ++ [c]) := by
  intro c
  refine ⟨?_, fun c' hc' => ?_, ?_, ?_⟩
  · show (calls ++ [c]).map (·.handler) ++ rest = round.handlers
    rw [List.map_append, List.append_assoc, ← ha.order, hpending]
    rfl
  · rcases List.mem_append.mp hc' with hc' | hc'
    · exact ha.same c' hc'
    · rw [List.mem_singleton.mp hc']
      exact ⟨rfl, rfl⟩
  · show round.handled + 1 = (calls ++ [c]).length
    rw [ha.handled, List.length_append, List.length_singleton]
  · show round.failures ++ c.failure?.toList = (calls ++ [c]).filterMap HandlerCall.failure?
    rw [ha.failures, List.filterMap_append]
    cases hc : c.failure? <;> simp [hc]

namespace Fans

variable {start : σ} {es : List (DeskEvent σ)} {d : Desk σ}

theorem begun_append (h : Fans start es d) (e : DeskEvent σ) {i : Nat} {round : Round σ}
    (hround : d.rounds[i]? = some round) : ∃ before after,
      es ++ [e] = before ++ .begun i round.result round.subject :: after ∧
        round.handlers = (standing before).map (·.2) := by
  obtain ⟨before, after, rfl, hhandlers⟩ := h.begun i round hround
  exact ⟨before, after ++ [e], by simp, hhandlers⟩

/-- Where nothing is called and no round begins, only who is attached can change. -/
theorem quiet (h : Fans start es d) {e : DeskEvent σ} (hcall : ∀ i, e.callIn? i = none)
    (hbegun : e.begun? = none) (hfailure : e.failure? = none) (dispatcher : Dispatcher σ) :
    Fans start (es ++ [e]) { d with dispatcher } := by
  have hcalls (i : Nat) : callsIn i (es ++ [e]) = callsIn i es := by
    rw [callsIn, List.filterMap_append, List.filterMap_cons_none (hcall i)]
    exact List.append_nil _
  refine ⟨?_, fun i round hround => h.begun_append e hround, fun i round hround => ?_, fun i hi => ?_,
    ?_, h.sinks.quiet hcall⟩
  · rw [List.filterMap_append, List.filterMap_cons_none hbegun, h.dispatches]
    exact (List.append_nil _).symm
  · rw [hcalls]
    exact h.accounts i round hround
  · rw [hcalls]
    exact h.fresh i hi
  · rw [List.filterMap_append, List.filterMap_cons_none hfailure]
    exact h.trail.trans (List.append_nil _).symm

theorem dispatch (h : Fans start es d) (hroster : Roster es d.dispatcher) (r : ScanResult)
    (s : Subject) : Fans start (es ++ [(d.step (.dispatch r s)).1]) (d.step (.dispatch r s)).2 := by
  let round := Round.begin r s (d.dispatcher.handlers.map (·.2))
  show Fans start (es ++ [.begun d.rounds.length r s]) { d with rounds := d.rounds ++ [round] }
  have hcalls (i : Nat) : callsIn i (es ++ [.begun d.rounds.length r s]) = callsIn i es :=
    List.filterMap_append.trans (List.append_nil _)
  -- A round is one of those that were there, or the new one, which has no calls yet.
  have hcase {i : Nat} {round' : Round σ} (hround : (d.rounds ++ [round])[i]? = some round') :
      d.rounds[i]? = some round' ∨ i = d.rounds.length ∧ round' = round := by
    rcases Nat.lt_or_ge i d.rounds.length with hi | hi
    · rw [List.getElem?_append_left hi] at hround
      exact .inl hround
    · rw [List.getElem?_append_right hi, List.getElem?_singleton] at hround
      split at hround
      · exact .inr ⟨by omega, (Option.some.inj hround).symm⟩
      · cases hround
  refine ⟨?_, fun i round' hround => ?_, fun i round' hround => ?_, fun i hi => ?_, ?_,
    h.sinks.quiet fun i => rfl⟩
  · rw [List.map_append, h.dispatches, List.filterMap_append]
    rfl
  · rcases hcase hround with hround | ⟨rfl, rfl⟩
    · exact h.begun_append _ hround
    · refine ⟨es, [], rfl, ?_⟩
      show d.dispatcher.handlers.map (·.2) = _
      rw [hroster.handlers]
  · rw [hcalls]
    rcases hcase hround with hround | ⟨rfl, rfl⟩
    · exact h.accounts i round' hround
    · rw [h.fresh d.rounds.length (Nat.le_refl _)]
      exact ⟨rfl, fun c hc => absurd hc List.not_mem_nil, rfl, rfl⟩
  · rw [hcalls]
    refine h.fresh i (Nat.le_trans ?_ hi)
    rw [List.length_append]
    exact Nat.le_add_right _ _
  · rw [List.filterMap_append]
    exact h.trail.trans (List.append_nil _).symm

theorem perform (h : Fans start es d) {i : Nat} {round : Round σ} {g : Handler σ}
    {rest : List (Handler σ)} (hround : d.rounds[i]? = some round) (hpending : round.pending = g :: rest) :
    Fans start (es ++ [(d.perform i round g rest).1]) (d.perform i round g rest).2 := by
  rw [Desk.perform]
  generalize hcall : (g.handle round.result round.subject).run.run d.sinks = ran
  obtain ⟨outcome, sinks⟩ := ran
  let c : HandlerCall σ := ⟨g, round.result, round.subject, outcome⟩
  have hi : i < d.rounds.length := (List.getElem?_eq_some_iff.mp hround).1
  have hcalls (k : Nat) : callsIn k (es ++ [.called i c]) =
      callsIn k es ++ if i = k then [c] else [] := by
    rw [callsIn, List.filterMap_append]
    by_cases hk : i = k <;> simp [DeskEvent.callIn?, hk, callsIn]
  have hcase {k : Nat} {round' : Round σ}
      (hround' : (d.rounds.set i (round.advance c rest))[k]? = some round') :
      k = i ∧ round' = round.advance c rest ∨ k ≠ i ∧ d.rounds[k]? = some round' := by
    by_cases hk : k = i
    · subst hk
      rw [List.getElem?_set_self hi] at hround'
      exact .inl ⟨rfl, (Option.some.inj hround').symm⟩
    · rw [List.getElem?_set_ne (Ne.symm hk)] at hround'
      exact .inr ⟨hk, hround'⟩
  refine ⟨?_, fun k round' hround' => ?_, fun k round' hround' => ?_, fun k hk => ?_, ?_, ?_⟩
  · -- The round goes on with its own result, so the dispatches are what they were.
    rw [List.filterMap_append, ← h.dispatches, List.map_set]
    have hmap : (d.rounds.map fun round => (round.result, round.subject))[i]? =
        some (round.result, round.subject) := by rw [List.getElem?_map, hround]; rfl
    obtain ⟨hlt, hsame⟩ := List.getElem?_eq_some_iff.mp hmap
    show (d.rounds.map fun round => (round.result, round.subject)).set i (round.result, round.subject) = _
    rw [← hsame, List.set_getElem_self]
    exact (List.append_nil _).symm
  · rcases hcase hround' with ⟨rfl, rfl⟩ | ⟨-, hround'⟩
    · have hbegun := h.begun_append (.called k c) hround
      exact hbegun
    · exact h.begun_append _ hround'
  · rw [hcalls]
    rcases hcase hround' with ⟨rfl, rfl⟩ | ⟨hk, hround'⟩
    · rw [if_pos rfl]
      exact (h.accounts k round hround).advance hpending outcome
    · rw [if_neg (Ne.symm hk), List.append_nil]
      exact h.accounts k round' hround'
  · rw [hcalls]
    rw [List.length_set] at hk
    rw [h.fresh k hk, if_neg (by omega)]
    rfl
  · rw [List.filterMap_append, ← h.trail]
    show d.trail ++ c.failure?.toList.map (·.event round.subject) =
      d.trail ++ [DeskEvent.called i c].filterMap DeskEvent.failure?
    cases hc : c.failure? <;> simp [DeskEvent.failure?, hc, c]
  · -- Which action of the handler is called is settled by the index alone.
    rw [Handler.handle] at hcall
    cases hindex : round.subject.index with
    | none =>
      rw [hindex] at hcall
      exact .single h.sinks hindex hcall
    | some index =>
      rw [hindex] at hcall
      exact .indexed h.sinks hindex hcall

end Fans

/-! ## Runs -/

/-- The round when the handlers that were left have been called, and some of them failed. -/
def Round.finish (round : Round σ) (failures : List HandlerFailure) : Round σ :=
  { round with
    pending := []
    handled := round.handled + round.pending.length
    failures := round.failures ++ failures }

/-- The operation brings a handler. -/
def DeskOperation.attaches : DeskOperation σ → Bool
  | attach _ => true
  | _ => false

namespace Desk

variable {initial : σ} {es : List (DeskEvent σ)} {d : Desk σ}

theorem step_call (d : Desk σ) (i : Nat) :
    d.step (.call i) = (.idle, d) ∨ ∃ round h rest, d.rounds[i]? = some round ∧
      round.pending = h :: rest ∧ d.step (.call i) = d.perform i round h rest := by
  rw [step]
  cases hround : d.rounds[i]? with
  | none => exact .inl rfl
  | some round =>
    cases hpending : round.pending with
    | nil => exact .inl (by simp only [hpending])
    | cons h rest => exact .inr ⟨round, h, rest, rfl, hpending, by simp only [hpending]⟩

theorem length_attachments_step (d : Desk σ) (op : DeskOperation σ) :
    (attachments [(d.step op).1]).length = if op.attaches then 1 else 0 := by
  cases op with
  | attach h => rfl
  | detach id => rfl
  | dispatch r s => rfl
  | call i =>
    rcases d.step_call i with hidle | ⟨round, h, rest, -, -, hperform⟩
    · rw [hidle]
      rfl
    · rw [hperform]
      rfl

theorem length_attachments_run (d : Desk σ) (ops : List (DeskOperation σ)) :
    (attachments (d.run ops).1).length = ops.countP (·.attaches) := by
  induction ops using List.reverseRecOn with
  | nil => rfl
  | append_singleton ops op ih =>
    rw [run_concat, attachments, List.filterMap_append, List.length_append, List.countP_append,
      List.countP_singleton, ← ih, ← length_attachments_step]
    rfl

theorem roster_step (h : Roster es d.dispatcher) (hn : (attachments es).length ≤ UInt64.size)
    (op : DeskOperation σ) : Roster (es ++ [(d.step op).1]) (d.step op).2.dispatcher := by
  cases op with
  | attach g => exact h.attach g
  | detach id => exact h.detach hn id
  | dispatch r s => exact h.other rfl (fun _ => rfl) fun _ => rfl
  | call i =>
    rcases d.step_call i with hidle | ⟨round, g, rest, -, -, hperform⟩
    · rw [hidle]
      exact h.other rfl (fun _ => rfl) fun _ => rfl
    · rw [hperform]
      exact h.other rfl (fun _ => rfl) fun _ => rfl

theorem fans_step (h : Fans initial es d) (hroster : Roster es d.dispatcher) (op : DeskOperation σ) :
    Fans initial (es ++ [(d.step op).1]) (d.step op).2 := by
  cases op with
  | attach g => exact h.quiet (fun _ => rfl) rfl rfl _
  | detach id => exact h.quiet (fun _ => rfl) rfl rfl _
  | dispatch r s => exact h.dispatch hroster r s
  | call i =>
    rcases d.step_call i with hidle | ⟨round, g, rest, hround, hpending, hperform⟩
    · rw [hidle]
      exact h.quiet (fun _ => rfl) rfl rfl d.dispatcher
    · rw [hperform]
      exact h.perform hround hpending

/-- Whatever is done, the roster is kept, as is what was called and recorded in all rounds. -/
theorem keeps_run (sinks : σ) (ops : List (DeskOperation σ))
    (hn : ops.countP (·.attaches) ≤ UInt64.size) :
    Roster ((start sinks).run ops).1 ((start sinks).run ops).2.dispatcher ∧
      Fans sinks ((start sinks).run ops).1 ((start sinks).run ops).2 := by
  -- By induction from the end. The roster goes along: a round begins with those whom it names.
  induction ops using List.reverseRecOn with
  | nil =>
    refine ⟨⟨rfl, rfl, rfl, fun id => rfl⟩, rfl, ?_, ?_, fun i _ => rfl, rfl, .nil⟩
    · exact fun i round hround => absurd hround (by simp [start, run])
    · exact fun i round hround => absurd hround (by simp [start, run])
  | append_singleton ops op ih =>
    have hbefore : ops.countP (·.attaches) ≤ UInt64.size :=
      Nat.le_trans (List.Sublist.countP_le (List.sublist_append_left ops [op])) hn
    obtain ⟨hroster, hfans⟩ := ih hbefore
    rw [← length_attachments_run (start sinks)] at hbefore
    rw [run_concat]
    exact ⟨roster_step hroster hbefore op, fans_step hfans hroster op⟩

/-! ## A round by itself -/

theorem run_snd (d : Desk σ) (ops : List (DeskOperation σ)) :
    (d.run ops).2 = ops.foldl (fun d op => (d.step op).2) d := by
  induction ops using List.reverseRecOn with
  | nil => rfl
  | append_singleton ops op ih => rw [run_concat, List.foldl_append, ih]; rfl

theorem run_cons_snd (d : Desk σ) (op : DeskOperation σ) (ops : List (DeskOperation σ)) :
    (d.run (op :: ops)).2 = ((d.step op).2.run ops).2 := by
  rw [run_snd, run_snd, List.foldl_cons]

/-- What is left of a round are the calls of its pending handlers, one after the other. -/
theorem run_calls {i : Nat} {round : Round σ} (hround : d.rounds[i]? = some round) :
    let ran := (Dispatcher.callEach round.result round.subject round.pending).run d.sinks
    (d.run (List.replicate round.pending.length (.call i))).2 =
      { d with
        rounds := d.rounds.set i (round.finish ran.1)
        sinks := ran.2
        trail := d.trail ++ ran.1.map (·.event round.subject) } := by
  -- By induction on the handlers that are left: each call leaves a round with one less.
  generalize hpending : round.pending = pending
  induction pending generalizing d round with
  | nil =>
    obtain ⟨hi, hsame⟩ := List.getElem?_eq_some_iff.mp hround
    have hfinish : round.finish [] = d.rounds[i] := by
      rw [hsame, Round.finish, List.append_nil, hpending, List.length_nil, Nat.add_zero, ← hpending]
    show d = { d with rounds := d.rounds.set i (round.finish []), trail := d.trail ++ [] }
    rw [hfinish, List.set_getElem_self, List.append_nil]
  | cons h rest ih =>
    let ran := (h.handle round.result round.subject).run.run d.sinks
    let c : HandlerCall σ := ⟨h, round.result, round.subject, ran.1⟩
    have hi : i < d.rounds.length := (List.getElem?_eq_some_iff.mp hround).1
    have hadvanced : (d.perform i round h rest).2.rounds[i]? = some (round.advance c rest) :=
      List.getElem?_set_self hi
    have hstep : (d.step (.call i)).2 = (d.perform i round h rest).2 := by
      rw [step, hround]
      simp only [hpending]
    have hfinish (failures : List HandlerFailure) : (round.advance c rest).finish failures =
        round.finish (c.failure?.toList ++ failures) := by
      simp only [Round.finish, Round.advance, hpending, List.length_cons, List.append_assoc,
        Nat.add_assoc, Nat.add_comm 1]
    rw [List.length_cons, List.replicate_succ, run_cons_snd, hstep]
    refine (ih hadvanced rfl).trans ?_
    let left := (Dispatcher.callEach round.result round.subject rest).run ran.2
    show Desk.mk d.dispatcher
        ((d.rounds.set i (round.advance c rest)).set i ((round.advance c rest).finish left.1)) left.2
        (d.trail ++ c.failure?.toList.map (·.event round.subject) ++ left.1.map (·.event round.subject)) = _
    rw [List.set_set, hfinish, List.append_assoc, ← List.map_append]
    rfl

/-- A round that nothing comes between is a dispatch: it comes to the same, does the same to the sinks,
and records the same. -/
theorem run_dispatch (d : Desk σ) (r : ScanResult) (s : Subject) :
    let ran := (d.dispatcher.dispatch r s).run d.sinks
    let calls := List.replicate d.dispatcher.handlers.length (DeskOperation.call d.rounds.length)
    ∃ round : Round σ, round.report? = some ran.1 ∧ (d.run (.dispatch r s :: calls)).2 =
      { d with rounds := d.rounds ++ [round], sinks := ran.2, trail := d.trail ++ ran.1.events s } := by
  intro ran calls
  let round := Round.begin r s (d.dispatcher.handlers.map (·.2))
  let begun : Desk σ := { d with rounds := d.rounds ++ [round] }
  have hround : begun.rounds[d.rounds.length]? = some round := List.getElem?_concat_length
  have hlength : round.pending.length = d.dispatcher.handlers.length := List.length_map _
  have hcalls := run_calls hround
  rw [hlength] at hcalls
  refine ⟨round.finish ran.1.failures, ?_, (run_cons_snd _ _ _).trans (hcalls.trans ?_)⟩
  · show some (DispatchReport.mk (0 + round.pending.length) ([] ++ ran.1.failures)) = some ran.1
    rw [hlength, Nat.zero_add, List.nil_append]
    rfl
  · have hset : begun.rounds.set d.rounds.length (round.finish ran.1.failures) =
        d.rounds ++ [round.finish ran.1.failures] := by
      show (d.rounds ++ [round]).set _ _ = _
      rw [List.set_append_right _ _ (Nat.le_refl _), Nat.sub_self]
      rfl
    rw [← hset]
    rfl

end Desk

end Sentinel
