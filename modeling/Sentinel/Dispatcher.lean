import Sentinel.AuditEvent
/-!
# Handlers and their dispatcher

A handler does something with each result: it may succeed, report an error or panic, and it changes
a state on the way. A dispatcher calls every attached handler, in the order of attachment, whatever
the others do.

Correspondence (operation of the component ↔ definition):
  `ResultHandler.handle_single_value`, `handle_multi_value` ↔ the fields `single`, `indexed`
  `ResultDispatcher.attach`, `detach`                       ↔ `Dispatcher.attach`, `Dispatcher.detach`
  `dispatch`                                                ↔ `Dispatcher.dispatch`
  what `catch_unwind` makes of a panic                      ↔ `Dispatcher.failureOf`
  `DispatchSummary`                                         ↔ `DispatchReport`
-/

namespace Sentinel

/-- What a handler does: it changes a state, and succeeds, reports an error or panics. -/
abbrev Handles (σ : Type) (α : Type) := ExceptT (Fault HandlerError) (StateM σ) α

/-- A handler with its actions for the only value of a property and for one of several. -/
structure Handler (σ : Type) where
  name : String
  single : ScanResult → String → PropertyType → Option String → Handles σ Unit
  indexed : ScanResult → String → Nat → PropertyType → Option String → Handles σ Unit

namespace Handler

variable {σ τ : Type}

/-- A handler with one action for both. -/
def uniform (name : String) (act : ScanResult → Subject → Handles σ Unit) : Handler σ where
  name := name
  single r path propertyType userId := act r ⟨path, none, propertyType, userId⟩
  indexed r path index propertyType userId := act r ⟨path, some index, propertyType, userId⟩

def handle (h : Handler σ) (r : ScanResult) (s : Subject) : Handles σ Unit :=
  match s.index with
  | some index => h.indexed r s.path index s.propertyType s.userId
  | none => h.single r s.path s.propertyType s.userId

/-- An action on part of a state as an action on the whole. -/
def onPart (get : τ → σ) (set : σ → τ → τ) (a : Handles σ Unit) : Handles τ Unit :=
  fun t =>
    let (outcome, s) := a (get t)
    (outcome, set s t)

end Handler

/-- A handler of part of a state as a handler of the whole. -/
def Handler.over (get : τ → σ) (set : σ → τ → τ) (h : Handler σ) : Handler τ where
  name := h.name
  single r path propertyType userId := onPart get set (h.single r path propertyType userId)
  indexed r path index propertyType userId := onPart get set (h.indexed r path index propertyType userId)

/-- The name of an attached handler. No two of the first 2^64 handlers share one. -/
abbrev HandlerId := UInt64

/-- The attached handlers in order, and the next free name. -/
structure Dispatcher (σ : Type) where
  handlers : List (HandlerId × Handler σ)
  nextId : HandlerId

/-- A handler that failed, and how. -/
structure HandlerFailure where
  handler : String
  error : HandlerError
deriving DecidableEq, Repr

/-- What became of one dispatch: how many handlers were called and which failed. -/
structure DispatchReport where
  handled : Nat
  failures : List HandlerFailure
deriving DecidableEq, Repr

def HandlerFailure.event (f : HandlerFailure) (s : Subject) : AuditEvent :=
  .handlerFailed f.handler s.path s.index f.error.message

def DispatchReport.failed (r : DispatchReport) : Nat := r.failures.length

def DispatchReport.events (r : DispatchReport) (s : Subject) : List AuditEvent := r.failures.map (·.event s)

namespace Dispatcher

variable {σ τ : Type}

def empty : Dispatcher σ := ⟨[], 0⟩

def attach (d : Dispatcher σ) (h : Handler σ) : HandlerId × Dispatcher σ :=
  (d.nextId, ⟨d.handlers ++ [(d.nextId, h)], d.nextId + 1⟩)

def attachAll (d : Dispatcher σ) (hs : List (Handler σ)) : Dispatcher σ :=
  hs.foldl (fun d h => (d.attach h).2) d

/-- Detaches a handler, and says whether it was attached. -/
def detach (d : Dispatcher σ) (id : HandlerId) : Bool × Dispatcher σ :=
  let kept := d.handlers.filter (·.1 ≠ id)
  (kept.length ≠ d.handlers.length, { d with handlers := kept })

def names (d : Dispatcher σ) : List String := d.handlers.map (·.2.name)

/-- The failure of a call; a panic is one too. -/
def failureOf (h : Handler σ) : Except (Fault HandlerError) Unit → Option HandlerFailure
  | .ok () => none
  | .error (.error e) => some ⟨h.name, e⟩
  | .error .panic => some ⟨h.name, .panicked h.name⟩

/-- Calls handlers one after the other; the failures are the answer. -/
def callEach (r : ScanResult) (s : Subject) : List (Handler σ) → StateM σ (List HandlerFailure)
  | [] => pure []
  | h :: hs => do
    let outcome ← (h.handle r s).run
    return (failureOf h outcome).toList ++ (← callEach r s hs)

def dispatch (d : Dispatcher σ) (r : ScanResult) (s : Subject) : StateM σ DispatchReport := do
  return ⟨d.handlers.length, ← callEach r s (d.handlers.map (·.2))⟩

end Dispatcher

/-- A dispatcher of part of a state as a dispatcher of the whole. -/
def Dispatcher.over (get : τ → σ) (set : σ → τ → τ) (d : Dispatcher σ) : Dispatcher τ where
  handlers := d.handlers.map fun (id, h) => (id, h.over get set)
  nextId := d.nextId

end Sentinel
