import Sentinel.Dig.Settings
import Sentinel.Sinks
/-!
# Configurations

The settings of a whole pipeline, as a JSON record and as rules on what is admitted. Whatever is
absent takes its default.

Correspondence (operation of the component ↔ definition):
  `ContentScanConfig`, `SseConfig` ↔ `Configuration`, `StreamingSettings`
  `from_json_str`, `from_file`     ↔ `Configuration.parse`, `Configuration.ofFile`
  `ContentScanConfig.validate`     ↔ `Configuration.validate`
-/

namespace Sentinel

/-- Whether findings are streamed, and how many frames a stream holds. -/
structure StreamingSettings where
  enabled : Bool := true
  capacity : Nat := 64
deriving DecidableEq, Repr

namespace StreamingSettings

def toJson (s : StreamingSettings) : Json :=
  .object [("enabled", .bool s.enabled), ("channel_capacity", .ofNat s.capacity)]

def ofDocument? (d : Document) : Option StreamingSettings := do
  let f ← d.fields? ["enabled", "channel_capacity"]
  let default : StreamingSettings := {}
  return {
    enabled := ← f.withDefault "enabled" Document.bool? default.enabled
    capacity := ← f.withDefault "channel_capacity" Document.word? default.capacity }

end StreamingSettings

/-- The settings of a pipeline. Without settings for a publisher no events are posted. -/
structure Configuration where
  treeDig : TreeDigSettings := {}
  changeDigs : List ChangeDigSettings := []
  publisher : Option PublisherSettings := some {}
  mails : List MailSettings := []
  persisters : List PersisterSettings := []
  streaming : StreamingSettings := {}
deriving DecidableEq, Repr

namespace Configuration

def toJson (c : Configuration) : Json :=
  .object [("tree_digger", c.treeDig.toJson), ("change_diggers", .array (c.changeDigs.map (·.toJson))),
    ("event_publisher", (c.publisher.map (·.toJson)).getD .null), ("mail", .array (c.mails.map (·.toJson))),
    ("persisters", .array (c.persisters.map (·.toJson))), ("sse", c.streaming.toJson)]

def ofDocument? (d : Document) : Option Configuration := do
  let f ← d.fields? ["tree_digger", "change_diggers", "event_publisher", "mail", "persisters", "sse"]
  let default : Configuration := {}
  return {
    treeDig := ← f.withDefault "tree_digger" TreeDigSettings.ofDocument? default.treeDig
    changeDigs := ←
      f.withDefault "change_diggers" (Document.list? ChangeDigSettings.ofDocument?) default.changeDigs
    publisher := ←
      f.withDefault "event_publisher" (Document.nullable? PublisherSettings.ofDocument?) default.publisher
    mails := ← f.withDefault "mail" (Document.list? MailSettings.ofDocument?) default.mails
    persisters := ←
      f.withDefault "persisters" (Document.list? PersisterSettings.ofDocument?) default.persisters
    streaming := ← f.withDefault "sse" StreamingSettings.ofDocument? default.streaming }

def parse (s : String) : Except DispatchError Configuration :=
  match (Document.parse? s).bind ofDocument? with
  | some c => .ok c
  | none => .error (.validation "config" "Invalid configuration")

/-- The configuration in a file, of which there may be no text. -/
def ofFile (text : Option String) : Except DispatchError Configuration :=
  match text with
  | some s => parse s
  | none => .error (.validation "config" "Invalid configuration")

def checkTemplates : List String → Except DispatchError Unit
  | [] => .ok ()
  | source :: sources =>
    match compileTemplate source with
    | .error e => .error (.validation "mail" e.message)
    | .ok _ => checkTemplates sources

/-- Refuses mail settings without recipients or with a text that is no template. -/
def checkMail (m : MailSettings) : Except DispatchError Unit :=
  if m.recipients.all Text.isBlankText then
    .error (.validation "mail.to" "At least one recipient is required")
  else checkTemplates [m.subject, m.text, m.html]

/-- Refuses a root of records that is not absolute. -/
def checkPersister (p : PersisterSettings) : Except DispatchError Unit :=
  if p.root.toList.head? = some '/' then .ok () else .error (.invalidValue "result_root" p.root)

def validate [SizeLimit] (c : Configuration) : Except DispatchError Unit := do
  c.treeDig.validate
  c.changeDigs.forM (·.validate)
  c.mails.forM checkMail
  c.persisters.forM checkPersister
  if c.streaming.capacity = 0 then
    throw (.validation "sse.channel_capacity" "Channel capacity must be positive")

end Configuration

end Sentinel
