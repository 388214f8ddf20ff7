import Sentinel.Error
import Sentinel.Finding
import Sentinel.Template.Reader
/-!
# Mails

Mails about findings: who gets them, from which templates they are made, and what they say. The
default templates write every fact of a finding down.

Correspondence (operation of the component ↔ definition):
  `MailConfig`                                 ↔ `MailSettings`
  `MailSender.new`, `compose`                  ↔ `MailSender.ofSettings`, `MailSender.compose`
  `MailContext.from`                           ↔ `Finding.mailValues`
  `iso`, `addresses`, `render`                 ↔ `isoText`, `addresses`, `MailSender.fill`
  `MailMessage`                                ↔ `Mail`
  `RecordingMailTransport.send`, `set_failing` ↔ `Mailbox.send`, the field `failing`
-/

namespace Sentinel

def defaultSubject : String :=
  "Scan result: \x7b\x7b\x7bstatus\x7d\x7d\x7d for \x7b\x7b\x7bpath\x7d\x7d\x7d" ++
    "\x7b\x7b#hasIndex\x7d\x7d \x7b\x7b\x7bindex\x7d\x7d\x7d\x7b\x7b/hasIndex\x7d\x7d"

def defaultText : String :=
  "status: \x7b\x7b\x7bstatus\x7d\x7d\x7d\n" ++
  "message: \x7b\x7b\x7bmessage\x7d\x7d\x7d\n" ++
  "path: \x7b\x7b\x7bpath\x7d\x7d\x7d\n" ++
  "\x7b\x7b#hasIndex\x7d\x7dindex: \x7b\x7b\x7bindex\x7d\x7d\x7d\x7b\x7b/hasIndex\x7d\x7d\n" ++
  "size: \x7b\x7b\x7bsize\x7d\x7d\x7d\n" ++
  "\x7b\x7b#hasUserId\x7d\x7duserId: \x7b\x7b\x7buserId\x7d\x7d\x7d\x7b\x7b/hasUserId\x7d\x7d\n" ++
  "started: \x7b\x7b\x7bstartedIso\x7d\x7d\x7d\n" ++
  "timestamp: \x7b\x7b\x7btimestampIso\x7d\x7d\x7d\n"

/-- Who gets mails, from which templates they are made, and whether results that are all right are
mailed too. A blank template stands for none. -/
structure MailSettings where
  sender : Option String := none
  recipients : List String := []
  cc : List String := []
  bcc : List String := []
  replyTo : List String := []
  subject : String := defaultSubject
  text : String := defaultText
  html : String := ""
  evenWhenOk : Bool := false
deriving DecidableEq, Repr

namespace MailSettings

def toJson (s : MailSettings) : Json :=
  .object [("from", .ofText? s.sender), ("to", .ofTexts s.recipients), ("cc", .ofTexts s.cc),
    ("bcc", .ofTexts s.bcc), ("reply_to", .ofTexts s.replyTo), ("subject", .string s.subject),
    ("text", .string s.text), ("html", .string s.html), ("send_even_when_ok", .bool s.evenWhenOk)]

def ofDocument? (d : Document) : Option MailSettings := do
  let f ← d.fields?
    ["from", "to", "cc", "bcc", "reply_to", "subject", "text", "html", "send_even_when_ok"]
  let texts := Document.list? Document.text?
  let default : MailSettings := {}
  return {
    sender := ← f.withDefault "from" (Document.nullable? Document.text?) default.sender
    recipients := ← f.withDefault "to" texts default.recipients
    cc := ← f.withDefault "cc" texts default.cc
    bcc := ← f.withDefault "bcc" texts default.bcc
    replyTo := ← f.withDefault "reply_to" texts default.replyTo
    subject := ← f.withDefault "subject" Document.text? default.subject
    text := ← f.withDefault "text" Document.text? default.text
    html := ← f.withDefault "html" Document.text? default.html
    evenWhenOk := ← f.withDefault "send_even_when_ok" Document.bool? default.evenWhenOk }

def parse? (s : String) : Option MailSettings := (Document.parse? s).bind ofDocument?

end MailSettings

structure Mail where
  sender : Option String
  recipients : List String
  cc : List String
  bcc : List String
  replyTo : List String
  subject : Option String
  text : Option String
  html : Option String
deriving DecidableEq, Repr

def Mail.toJson (m : Mail) : Json :=
  .object [("from", .ofText? m.sender), ("to", .ofTexts m.recipients), ("cc", .ofTexts m.cc),
    ("bcc", .ofTexts m.bcc), ("replyTo", .ofTexts m.replyTo), ("subject", .ofText? m.subject),
    ("text", .ofText? m.text), ("html", .ofText? m.html)]

/-- The template of a text; a blank text is none. -/
def compileTemplate (source : String) : Except Template.Fault (Option Template) :=
  if Text.isBlankText source then .ok none else (Template.parse source).map some

/-- The date and time of day of a number of milliseconds; nothing beyond the years of the calendar. -/
def isoText (millis : Int) : String := ((Instant.ofMillis? millis).map (·.withMillis)).getD ""

/-- The values that the templates of mails are filled in from. -/
def Finding.mailValues (f : Finding) : Template.Values :=
  let m : Template.Values := KeyMap.ofList
    [("status", .text f.status.canonicalName),
     ("message", .text f.message),
     ("path", .text f.path),
     ("propertyType", .text f.propertyType.canonicalName),
     ("size", .text (Text.natText f.size)),
     ("started", .text (Text.intText f.started)),
     ("timestamp", .text (Text.intText f.timestamp)),
     ("startedIso", .text (isoText f.started)),
     ("timestampIso", .text (isoText f.timestamp)),
     ("hasIndex", .flag f.index.isSome),
     ("hasUserId", .flag f.userId.isSome)]
  let m := match f.index with
    | some i => m.insert "index" (.text (Text.natText i))
    | none => m
  match f.userId with
  | some u => m.insert "userId" (.text u)
  | none => m

/-- The addresses of a list without blanks around them; blank ones do not count. -/
def addresses (list : List String) : List String := (list.map Text.trim).filter (!·.isEmpty)

structure MailSender where
  settings : MailSettings
  subject : Option Template
  text : Option Template
  html : Option Template

namespace MailSender

def ofSettings (settings : MailSettings) : Except HandlerError MailSender := do
  let compile (source : String) : Except HandlerError (Option Template) :=
    match compileTemplate source with
    | .ok t => .ok t
    | .error e => .error (.template e.message)
  return {
    settings
    subject := ← compile settings.subject
    text := ← compile settings.text
    html := ← compile settings.html }

/-- The text that a template is filled in to. -/
def fill (values : Template.Values) : Option Template → Except (Fault HandlerError) (Option String)
  | none => .ok none
  | some t =>
    match t.render? values with
    | some s => .ok (some s)
    | none => .error .panic

def compose (m : MailSender) (f : Finding) : Except (Fault HandlerError) Mail :=
  let recipients := addresses m.settings.recipients
  if recipients.isEmpty then .error (.error (.mail "no recipients configured"))
  else do
    let values := f.mailValues
    return {
      sender := (m.settings.sender.map Text.trim).filter (!·.isEmpty)
      recipients
      cc := addresses m.settings.cc
      bcc := addresses m.settings.bcc
      replyTo := addresses m.settings.replyTo
      subject := ← fill values m.subject
      text := ← fill values m.text
      html := ← fill values m.html }

end MailSender

/-- Where mails go: the mails that were sent, and whether the server refuses them. -/
structure Mailbox where
  sent : List Mail
  failing : Bool
deriving DecidableEq, Repr

namespace Mailbox

def empty : Mailbox := ⟨[], false⟩

/-- Sends a mail, or says why it is refused. -/
def send (b : Mailbox) (m : Mail) : Except HandlerError Mailbox :=
  if b.failing then .error (.mail "mail server refused connection") else .ok { b with sent := b.sent ++ [m] }

end Mailbox

end Sentinel
