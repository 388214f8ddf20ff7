import Sentinel.Dispatcher
import Sentinel.EventBus
import Sentinel.Json.Record
import Sentinel.Mail
import Sentinel.Record.MemoryStore
import Sentinel.Streaming.EventStream
/-!
# Sinks

Where results go: event buses, a mailbox, a store of records and streaming clients, with one handler
for each. Every handler but the one for streaming leaves results out that are all right, unless its
settings say otherwise.

Correspondence (operation of the component ↔ definition):
  `EventPublisher.publish`    ↔ `PublisherSettings.handler`
  `MailSender.send`           ↔ `MailSender.handler`
  `ResourcePersister.persist` ↔ `PersisterSettings.handler`
  `SseBroadcaster.forward`    ↔ `broadcaster`
-/

namespace Sentinel

abbrev BusId := Nat

abbrev RegistryId := Nat

/-- All sinks. The stamps are those of the records that persisters create, in order. -/
structure Sinks where
  buses : List EventBus
  mailbox : Mailbox
  store : MemoryStore
  registries : List Registry
  connections : Connections
  trail : Trail
  stamps : Nat → RecordStamp
  stamped : Nat

namespace Sinks

/-- Sinks without anything in them, not even a bus or a registry. -/
def empty (stamps : Nat → RecordStamp) : Sinks where
  buses := []
  mailbox := .empty
  store := .empty
  registries := []
  connections := .empty
  trail := []
  stamps := stamps
  stamped := 0

def addBus (s : Sinks) (b : EventBus) : BusId × Sinks := (s.buses.length, { s with buses := s.buses ++ [b] })

def addRegistry (s : Sinks) : RegistryId × Sinks :=
  (s.registries.length, { s with registries := s.registries ++ [.empty] })

def post (s : Sinks) (bus : BusId) (e : BusEvent) : Sinks := { s with buses := s.buses.modify bus (·.post e) }

/-- A registry with the transports and the audit trail. -/
def live (s : Sinks) (id : RegistryId) : Live :=
  ⟨(s.registries[id]?).getD .empty, s.connections, s.trail⟩

/-- Puts a registry back with the transports and the audit trail. -/
def setLive (s : Sinks) (id : RegistryId) (l : Live) : Sinks :=
  { s with registries := s.registries.set id l.registry, connections := l.connections, trail := l.trail }

def onLive {α : Type} (s : Sinks) (id : RegistryId) (f : Live → α × Live) : α × Sinks :=
  let (a, l) := f (s.live id)
  (a, s.setLive id l)

end Sinks

structure OpenStream where
  stream : EventStream
  registry : RegistryId
deriving DecidableEq, Repr

namespace OpenStream

/-- Opens a stream of a capacity; one that no channel can have is no error but a panic. -/
def openOn (s : Sinks) (registry : RegistryId) (capacity : Nat) : Option (OpenStream × Sinks) := do
  let (stream, l) ← EventStream.openOn (s.live registry) capacity
  return (⟨stream, registry⟩, s.setLive registry l)

def poll (o : OpenStream) (s : Sinks) : Poll × OpenStream × Sinks :=
  let (result, stream, l) := o.stream.poll (s.live o.registry)
  (result, { o with stream }, s.setLive o.registry l)

def close (o : OpenStream) (s : Sinks) : OpenStream × Sinks :=
  let (stream, l) := o.stream.close (s.live o.registry)
  ({ o with stream }, s.setLive o.registry l)

end OpenStream

/-- Whether a publisher posts results that are all right too. -/
structure PublisherSettings where
  evenWhenOk : Bool := false
deriving DecidableEq, Repr

namespace PublisherSettings

def toJson (s : PublisherSettings) : Json := .object [("send_even_when_ok", .bool s.evenWhenOk)]

def ofDocument? (d : Document) : Option PublisherSettings := do
  let f ← d.fields? ["send_even_when_ok"]
  return { evenWhenOk := ← f.withDefault "send_even_when_ok" Document.bool? false }

def parse? (s : String) : Option PublisherSettings := (Document.parse? s).bind ofDocument?

/-- The handler that posts findings on the topic of their type. -/
def handler (s : PublisherSettings) (bus : BusId) : Handler Sinks :=
  .uniform "event-publisher" fun r subject => do
    if r.callsFor s.evenWhenOk then
      modify fun sinks =>
        sinks.post bus ⟨subject.propertyType.resultTopic, (Finding.ofResult r subject).properties⟩

end PublisherSettings

/-- The handler that mails findings. A mail that the server refuses is lost, which is no failure. -/
def MailSender.handler (m : MailSender) : Handler Sinks :=
  .uniform "mail-sender" fun r subject => do
    if r.callsFor m.settings.evenWhenOk then
      match m.compose (.ofResult r subject) with
      | .error e => throw e
      | .ok mail =>
        modify fun sinks =>
          match sinks.mailbox.send mail with
          | .ok mailbox => { sinks with mailbox }
          | .error _ => sinks

/-- Below which root a persister creates records, and whether of results that are all right too. -/
structure PersisterSettings where
  root : String := "/var/contentscan/results"
  evenWhenOk : Bool := false
deriving DecidableEq, Repr

namespace PersisterSettings

def toJson (s : PersisterSettings) : Json :=
  .object [("result_root", .string s.root), ("send_even_when_ok", .bool s.evenWhenOk)]

def ofDocument? (d : Document) : Option PersisterSettings := do
  let f ← d.fields? ["result_root", "send_even_when_ok"]
  let default : PersisterSettings := {}
  return {
    root := ← f.withDefault "result_root" Document.text? default.root
    evenWhenOk := ← f.withDefault "send_even_when_ok" Document.bool? default.evenWhenOk }

def parse? (s : String) : Option PersisterSettings := (Document.parse? s).bind ofDocument?

/-- The record of a finding: its properties and the kind of record it is. -/
def recordOf (f : Finding) : Attributes := f.properties.insert "resourceType" (.string findingEventKind)

/-- The handler that creates a record of every finding. -/
def handler (s : PersisterSettings) : Handler Sinks :=
  .uniform "resource-persister" fun r subject => do
    if r.callsFor s.evenWhenOk then
      let sinks ← get
      let stamp := sinks.stamps sinks.stamped
      let sinks := { sinks with stamped := sinks.stamped + 1 }
      match sinks.store.create (Record.folder s.root stamp.time) (Record.name subject.propertyType stamp.id)
          (recordOf (.ofResult r subject)) with
      | .ok (_, store) => set { sinks with store }
      | .error e =>
        set sinks
        throw (.error e)

end PersisterSettings

/-- The handler that broadcasts every finding, as JSON, to the clients of a registry. -/
def broadcaster (registry : RegistryId) : Handler Sinks :=
  .uniform "sse-broadcaster" fun r subject =>
    modify fun sinks =>
      let e : StreamEvent := ⟨findingEventKind, (Finding.ofResult r subject).toJson.compact⟩
      (sinks.onLive registry (·.broadcast e)).2

end Sentinel
