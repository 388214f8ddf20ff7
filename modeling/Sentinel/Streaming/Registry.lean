import Sentinel.AuditEvent
import Sentinel.Streaming.Event
import Sentinel.Streaming.Transport
/-!
# Streaming clients

Every client has a queue of events and a transport. An event is put into the queue of each client
and each queue is emptied into its transport as long as the transport is ready. A client whose
transport fails is removed, as is one that completes, times out or breaks off; a removed client gets
nothing any more.

Correspondence (operation of the component ↔ definition):
  `Client.enqueue`, then `Client.drain`       ↔ `Live.deliver`, `Live.drain`; the loop: `drainQueue`
  `Client.close`                              ↔ what `Live.remove` does to the queue and the trail
  `register`, `remove`, `on_writable`         ↔ `Live.register`, `Live.remove`, `Live.onWritable`
  `on_complete`, `on_timeout`, `on_error`     ↔ `Live.remove`, each with its `ClosedReason`
  `broadcast`, `close_all`                    ↔ `Live.broadcastIn`, `Live.closeAllIn`
  the order of `snapshot` and of the hash map ↔ `VisitingOrder`
  `state`, `pending`, `broadcast_count`       ↔ `Registry.state?`, `Registry.pending?`, `broadcasts`
-/

namespace Sentinel

/-- Which transport a client has. -/
abbrev TransportId := Nat

/-- How far the delivery to a client has come. -/
inductive ClientState where
  | opened
  | draining
  | idle
  | closed
deriving DecidableEq, Repr

def ClientState.word : ClientState → String
  | opened => "Open"
  | draining => "Draining"
  | idle => "Idle"
  | closed => "Closed"

/-- A client with the events that wait for it. -/
structure Client where
  id : ClientId
  transport : TransportId
  queue : List StreamEvent
  state : ClientState
deriving DecidableEq, Repr

/-- The clients in the order of their registration, and the number of broadcasts. -/
structure Registry where
  clients : List Client
  broadcasts : Nat
deriving DecidableEq, Repr

/-- The transports there are, how many clients were ever registered, and the calls of transports, each
with the client that it was for. -/
structure Connections where
  transports : List Transport
  issued : Nat
  calls : List (ClientId × TransportCall)
deriving DecidableEq, Repr

/-- What is left when a queue has been emptied as far as possible, and the calls on the way. -/
structure Drained where
  queue : List StreamEvent
  transport : Transport
  failure : Option TransportError
  calls : List TransportCall

/-- What is left in the end, when there were other calls before. -/
def Drained.after (calls : List TransportCall) (d : Drained) : Drained := { d with calls := calls ++ d.calls }

/-- Writes events as long as the transport is ready, and passes each on. An event whose write fails
is gone from the queue. -/
def drainQueue (t : Transport) : List StreamEvent → Drained
  | [] =>
    match t.flushIfReady with
    | .ok t' => ⟨[], t', none, t.flushCalls⟩
    | .error e => ⟨[], t, some e, t.flushCalls⟩
  | e :: es =>
    if t.isReady then
      match t.write e.wire with
      | .error f => ⟨es, t, some f, [.write e.wire (some f)]⟩
      | .ok t =>
        match t.flushIfReady with
        | .error f => ⟨es, t, some f, .write e.wire none :: t.flushCalls⟩
        | .ok t' => (drainQueue t' es).after (.write e.wire none :: t.flushCalls)
    else ⟨e :: es, t, none, []⟩

/-- An order in which clients are visited. -/
structure VisitingOrder where
  visit : List Client → List Client
  perm : ∀ clients, List.Perm (visit clients) clients

/-- Those who came first are visited first. -/
def VisitingOrder.bySeniority : VisitingOrder := ⟨fun clients => clients, fun _ => .refl _⟩

namespace Connections

def empty : Connections := ⟨[], 0, []⟩

def add (c : Connections) (t : Transport) : TransportId × Connections :=
  (c.transports.length, { c with transports := c.transports ++ [t] })

/-- A transport; an unknown one never takes anything. -/
def get (c : Connections) (id : TransportId) : Transport :=
  (c.transports[id]?).getD (.recorder { completed := true })

def modify (c : Connections) (id : TransportId) (f : Transport → Transport) : Connections :=
  { c with transports := c.transports.modify id f }

def note (c : Connections) (id : ClientId) (calls : List TransportCall) : Connections :=
  { c with calls := c.calls ++ calls.map fun call => (id, call) }

def complete (cs : Connections) (c : Client) : Connections :=
  (cs.modify c.transport Transport.complete).note c.id [.complete]

end Connections

namespace Registry

def empty : Registry := ⟨[], 0⟩

def find? (r : Registry) (id : ClientId) : Option Client := r.clients.find? (·.id = id)

def update (r : Registry) (c : Client) : Registry :=
  { r with clients := r.clients.map fun d => if d.id = c.id then c else d }

def erase (r : Registry) (id : ClientId) : Registry := { r with clients := r.clients.filter (·.id ≠ id) }

def state? (r : Registry) (id : ClientId) : Option ClientState := (r.find? id).map (·.state)

def pending? (r : Registry) (id : ClientId) : Option Nat := (r.find? id).map (·.queue.length)

end Registry

/-- A registry with the transports of its clients and the audit trail. -/
structure Live where
  registry : Registry
  connections : Connections
  trail : Trail

namespace Live

def record (l : Live) (e : AuditEvent) : Live := { l with trail := l.trail ++ [e] }

def register (l : Live) (transport : TransportId) : ClientId × Live :=
  let id := l.connections.issued
  let clients := l.registry.clients ++ [⟨id, transport, [], .opened⟩]
  let l := { l with
    registry := { l.registry with clients }
    connections := { l.connections with issued := id + 1 } }
  (id, l.record (.clientRegistered id clients.length))

/-- Removes a client, and says whether it was registered. -/
def remove (l : Live) (id : ClientId) (reason : ClosedReason) : Bool × Live :=
  match l.registry.find? id with
  | none => (false, l)
  | some c =>
    let l := { l with
      registry := l.registry.erase id
      connections := l.connections.modify c.transport Transport.release }
    (true, l.record (.clientClosed id reason c.queue.length))

/-- Empties the queue of a client as far as its transport takes it. A client whose transport fails
is removed and its transport is ended. -/
def drain (l : Live) (c : Client) : Live :=
  let d := drainQueue (l.connections.get c.transport) c.queue
  let state := if d.queue.isEmpty && d.failure.isNone then .idle else .draining
  let l := { l with
    registry := l.registry.update { c with queue := d.queue, state }
    connections := (l.connections.modify c.transport fun _ => d.transport).note c.id d.calls }
  match d.failure with
  | none => l
  | some _ =>
    let (_, l) := l.remove c.id .error
    { l with connections := l.connections.complete c }

/-- Goes on with a client whose transport has become ready. -/
def onWritable (l : Live) (id : ClientId) : Live :=
  match l.registry.find? id with
  | none => l
  | some c => l.drain c

/-- Gives an event to one client. -/
def deliver (e : StreamEvent) (l : Live) (id : ClientId) : Live :=
  match l.registry.find? id with
  | none => l
  | some c => l.drain { c with queue := c.queue ++ [e] }

/-- Gives an event to every client, in some order, and says how many there were. -/
def broadcastIn (l : Live) (order : VisitingOrder) (e : StreamEvent) : Nat × Live :=
  let ids := (order.visit l.registry.clients).map (·.id)
  let l := { l with registry := { l.registry with broadcasts := l.registry.broadcasts + 1 } }
  (ids.length, ids.foldl (deliver e) l)

def broadcast (l : Live) (e : StreamEvent) : Nat × Live := l.broadcastIn .bySeniority e

/-- Removes a client at the end of the service and ends its transport. -/
def shut (l : Live) (c : Client) : Live :=
  let (_, l) := l.remove c.id .shutdown
  { l with connections := l.connections.complete c }

/-- Removes every client, in some order. -/
def closeAllIn (l : Live) (order : VisitingOrder) : Live := (order.visit l.registry.clients).foldl shut l

def closeAll (l : Live) : Live := l.closeAllIn .bySeniority

end Live

end Sentinel
