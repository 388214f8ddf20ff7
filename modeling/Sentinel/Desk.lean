import Sentinel.Dispatcher
/-!
# Dispatches under way

A dispatcher while results go round. Several results may be on their way at once, and handlers come and
go in the meantime; each round goes on with the handlers that were attached when it began.

Correspondence (operation of the component ↔ definition):
  `snapshot` at the start of `dispatch` ↔ `DeskOperation.dispatch`
  one handler in the loop of `dispatch` ↔ `Desk.perform`
  `attach`, `detach`                    ↔ `DeskOperation.attach`, `DeskOperation.detach`
-/

namespace Sentinel

/-- The call of a handler with a result, and what came of it. -/
structure HandlerCall (σ : Type) where
  handler : Handler σ
  result : ScanResult
  subject : Subject
  outcome : Except (Fault HandlerError) Unit

/-- A result on its way: the handlers that were attached when it set out, those of them still to be
called, how many were called, and the failures. -/
structure Round (σ : Type) where
  result : ScanResult
  subject : Subject
  handlers : List (Handler σ)
  pending : List (Handler σ)
  handled : Nat
  failures : List HandlerFailure

/-- A dispatcher with the rounds that were begun, what the handlers change, and the audit trail. -/
structure Desk (σ : Type) where
  dispatcher : Dispatcher σ
  rounds : List (Round σ)
  sinks : σ
  trail : Trail

/-- An operation on a dispatcher: a handler comes or goes, a round begins, or the next handler of a round
is called. -/
inductive DeskOperation (σ : Type) where
  | attach (h : Handler σ)
  | detach (id : HandlerId)
  | dispatch (r : ScanResult) (s : Subject)
  | call (round : Nat)

inductive DeskEvent (σ : Type) where
  | attached (id : HandlerId) (h : Handler σ)
  | detached (id : HandlerId) (was : Bool)
  | begun (round : Nat) (r : ScanResult) (s : Subject)
  | called (round : Nat) (call : HandlerCall σ)
  | idle

variable {σ : Type}

def HandlerCall.failure? (c : HandlerCall σ) : Option HandlerFailure :=
  Dispatcher.failureOf c.handler c.outcome

namespace Round

/-- The round of a result that sets out to some handlers. -/
def begin (r : ScanResult) (s : Subject) (hs : List (Handler σ)) : Round σ := ⟨r, s, hs, hs, 0, []⟩

/-- The round behind the call of its next handler. -/
def advance (round : Round σ) (c : HandlerCall σ) (rest : List (Handler σ)) : Round σ :=
  { round with
    pending := rest
    handled := round.handled + 1
    failures := round.failures ++ c.failure?.toList }

/-- What a round comes to, when there is no handler left. -/
def report? (round : Round σ) : Option DispatchReport :=
  if round.pending.isEmpty then some ⟨round.handled, round.failures⟩ else none

end Round

namespace Desk

def start (sinks : σ) : Desk σ := ⟨.empty, [], sinks, []⟩

/-- Calls a handler in a round; a failure is recorded. -/
def perform (d : Desk σ) (i : Nat) (round : Round σ) (h : Handler σ) (rest : List (Handler σ)) :
    DeskEvent σ × Desk σ :=
  let (outcome, sinks) := (h.handle round.result round.subject).run.run d.sinks
  let call : HandlerCall σ := ⟨h, round.result, round.subject, outcome⟩
  let failures := call.failure?.toList
  (.called i call, { d with
    rounds := d.rounds.set i (round.advance call rest)
    sinks
    trail := d.trail ++ failures.map (·.event round.subject) })

def step (d : Desk σ) : DeskOperation σ → DeskEvent σ × Desk σ
  | .attach h =>
    let (id, dispatcher) := d.dispatcher.attach h
    (.attached id h, { d with dispatcher })
  | .detach id =>
    let (was, dispatcher) := d.dispatcher.detach id
    (.detached id was, { d with dispatcher })
  | .dispatch r s =>
    let round := Round.begin r s (d.dispatcher.handlers.map (·.2))
    (.begun d.rounds.length r s, { d with rounds := d.rounds ++ [round] })
  | .call i =>
    match d.rounds[i]? with
    | none => (.idle, d)
    | some round =>
      match round.pending with
      | [] => (.idle, d)
      | h :: rest => d.perform i round h rest

def run (d : Desk σ) (ops : List (DeskOperation σ)) : List (DeskEvent σ) × Desk σ :=
  ops.foldl (fun (es, d) op =>
    let (e, d) := d.step op
    (es ++ [e], d)) ([], d)

end Desk

end Sentinel
