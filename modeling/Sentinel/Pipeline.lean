import Sentinel.Configuration
import Sentinel.Dig.Change
import Sentinel.Dig.Request
/-!
# Pipelines

A pipeline is put together from a configuration and from the collaborators that are given: it has
the handlers and the change diggers that the configuration asks for, digs with the configured
defaults, and passes changes on to every digger.

Correspondence (operation of the component ↔ definition):
  `ScanPipelineBuilder.build`      ↔ `Pipeline.build`; what it was given: `Collaborators`
  `dig`, `dig_params`, `on_change` ↔ `Pipeline.dig`, `Pipeline.digParams`, `Pipeline.onChange`
  `open_stream`, `shutdown`        ↔ `Pipeline.openStream`, `Pipeline.shutdown`
-/

namespace Sentinel

/-- What is given to a pipeline that is built. -/
structure Collaborators where
  repository : Bool
  engine : Bool
  queue : Bool
  bus : Option BusId
  mailbox : Bool
  store : Bool
  registry : Option RegistryId
deriving DecidableEq, Repr

/-- A pipeline: its configuration, handlers and change diggers, and the registry of its streams. -/
structure Pipeline where
  configuration : Configuration
  dispatcher : Dispatcher Sinks
  registry : RegistryId
  diggers : List ChangeDigger

namespace Pipeline

/-- Refuses to go on without a collaborator. -/
def need (given : Bool) (parameter reason : String) : Except DispatchError Unit :=
  if given then .ok () else .error (.validation parameter reason)

def mailHandlers : List MailSettings → Except DispatchError (List (Handler Sinks))
  | [] => .ok []
  | m :: ms =>
    match MailSender.ofSettings m with
    | .error e => .error (.validation "mail" e.message)
    | .ok sender => do return sender.handler :: (← mailHandlers ms)

def startDiggers [SizeLimit] :
    List ChangeDigSettings → Except (Fault DispatchError) (List ChangeDigger)
  | [] => .ok []
  | s :: ss => do return (← ChangeDigger.start s) :: (← startDiggers ss)

/-- The bus of a publisher: the one that is given, or a new one. -/
def busFor (c : Collaborators) (s : Sinks) : BusId × Sinks :=
  match c.bus with
  | some bus => (bus, s)
  | none => s.addBus (.withCapacity EventBus.defaultCapacity)

/-- The registry of the streams: the one that is given, or a new one. -/
def registryFor (c : Collaborators) (s : Sinks) : RegistryId × Sinks :=
  match c.registry with
  | some registry => (registry, s)
  | none => s.addRegistry

/-- The handlers that a configuration asks for, in their order. -/
def handlersFor (configuration : Configuration) (c : Collaborators) (bus : BusId) (registry : RegistryId) :
    Except DispatchError (List (Handler Sinks)) := do
  let publisher := configuration.publisher.map (·.handler bus)
  if !configuration.mails.isEmpty then need c.mailbox "mail" "A mail transport is required"
  let mails ← mailHandlers configuration.mails
  if !configuration.persisters.isEmpty then need c.store "resultStore" "A result store is required"
  let persisters := configuration.persisters.map (·.handler)
  let streaming := if configuration.streaming.enabled then [broadcaster registry] else []
  return publisher.toList ++ mails ++ persisters ++ streaming

def build [SizeLimit] (configuration : Configuration) (c : Collaborators) (s : Sinks) :
    Except (Fault DispatchError) (Pipeline × Sinks) := do
  configuration.validate.mapError .error
  (need c.repository "repository" "A content repository is required").mapError .error
  (need c.engine "scanner" "A scan engine is required").mapError .error
  (need c.queue "jobQueue" "A job queue is required").mapError .error
  let (registry, s) := registryFor c s
  let (bus, s) := busFor c s
  let handlers ← (handlersFor configuration c bus registry).mapError .error
  let diggers ← startDiggers configuration.changeDigs
  return (⟨configuration, Dispatcher.empty.attachAll handlers, registry, diggers⟩, s)

/-- Digs from a path on with the configured defaults. -/
def dig [SizeLimit] (p : Pipeline) (r : Repository) (path : String) : Digs DigSummary := do
  match DigRequest.ofSettings path p.configuration.treeDig with
  | .error e => throw e
  | .ok request =>
    match Session.openOn r with
    | .error e => throw (.repositoryAccess e)
    | .ok session => Dig.request session request

/-- Digs as parameters ask, with the configured defaults. -/
def digParams [SizeLimit] (p : Pipeline) (r : Repository) (params : RequestParams) :
    Digs DigSummary := do
  match DigRequest.ofParams params p.configuration.treeDig with
  | .error e => throw e
  | .ok request =>
    match Session.openOn r with
    | .error e => throw (.repositoryAccess e)
    | .ok session => Dig.request session request

/-- Passes a notification on to every digger: the diggers afterwards, the number of properties that
were queued, and the first rejection. -/
def notifyEach (path : String) (added changed : List String) (userId : Option String) :
    List ChangeDigger → List ChangeDigger × Nat × Option DispatchError
  | [] => ([], 0, none)
  | d :: ds =>
    let (rest, queued, rejection) := notifyEach path added changed userId ds
    match d.notify path added changed userId with
    | .ok (n, d) => (d :: rest, n + queued, rejection)
    | .error e => (d :: rest, queued, some e)

/-- Takes a notification. A digger that rejects it does not keep it from the others. -/
def onChange (p : Pipeline) (path : String) (added changed : List String) (userId : Option String) :
    Except DispatchError Nat × Pipeline :=
  let (diggers, queued, rejection) := notifyEach path added changed userId p.diggers
  let outcome := match rejection with
    | none => .ok queued
    | some e => .error e
  (outcome, { p with diggers })

/-- Does the work of the task that has waited longest for the digger at a place. -/
def runOldest (p : Pipeline) (r : Repository) (place : Nat) : StateM DigState Pipeline := do
  match p.diggers[place]? with
  | none => return p
  | some d => return { p with diggers := p.diggers.set place (← d.runOldest r) }

/-- Opens a stream of the configured capacity; one that no channel can have is no error but a
panic. -/
def openStream (p : Pipeline) (s : Sinks) : Option (OpenStream × Sinks) :=
  OpenStream.openOn s p.registry p.configuration.streaming.capacity

/-- Removes every streaming client. -/
def shutdown (p : Pipeline) (s : Sinks) : Sinks := s.setLive p.registry (s.live p.registry).closeAll

end Pipeline

end Sentinel
