import Mathlib.Data.List.ModifyLast
import Sentinel.Proofs.Handlers.FanOut
import Sentinel.Proofs.Record.Identity
import Sentinel.Proofs.Sinks.Persisting
import Sentinel.Proofs.Streaming.Broadcaster
/-!
# Sinks behind their gates

The handlers of a pipeline, by kinds, and what one of them does with one result. Each of them has a share
in one part of the sinks: it posts events, hands mails over, files records or broadcasts. All but the last
kind have a gate for results that are all right, and what does not pass the gate changes nothing.

1. `run_of_not_takes`: a result that does not pass the gate.
2. `run_bus`, `run_mail_of_ok`, `run_records_of_ok`, `run_stream`: what a handler of each kind does.
3. `Kept.part`, `Kept.names`: what a row of handlers does to a part of the sinks, and which of them fail.
-/

namespace Sentinel

/-- A result with the value that it is about. -/
structure Verdict where
  result : ScanResult
  subject : Subject

namespace Verdict

def finding (v : Verdict) : Finding := .ofResult v.result v.subject

/-- The event that is posted about a result, on the topic for its type. -/
def event (v : Verdict) : BusEvent := ⟨v.subject.propertyType.resultTopic, v.finding.properties⟩

end Verdict

/-- The mailbox behind a mail; one that the server refuses is lost. -/
def Mailbox.handed (b : Mailbox) (m : Mail) : Mailbox :=
  if b.failing then b else { b with sent := b.sent ++ [m] }

/-- A handler of a pipeline: a publisher, a sender of mails, a persister or a broadcaster. -/
inductive Outlet where
  | bus (settings : PublisherSettings) (id : BusId)
  | mail (sender : MailSender)
  | records (settings : PersisterSettings)
  | stream (id : RegistryId)

namespace Outlet

def handler : Outlet → Handler Sinks
  | bus settings id => settings.handler id
  | mail sender => sender.handler
  | records settings => settings.handler
  | stream id => broadcaster id

/-- Whether a result passes the gate of the handler; a broadcaster has none. -/
def takes (v : Verdict) : Outlet → Bool
  | bus settings _ => v.result.callsFor settings.evenWhenOk
  | mail sender => v.result.callsFor sender.settings.evenWhenOk
  | records settings => v.result.callsFor settings.evenWhenOk
  | stream _ => true

end Outlet

/-- A handler that is handed a result. -/
structure Handover where
  outlet : Outlet
  verdict : Verdict

namespace Handover

/-- How the call of the handler ends, and the sinks behind it. -/
def run (c : Handover) (s : Sinks) : Except (Fault HandlerError) Unit × Sinks :=
  (c.outlet.handler.handle c.verdict.result c.verdict.subject).run.run s

variable {v : Verdict} {s : Sinks}

/-- What does not pass the gate is a success, and changes nothing. -/
theorem run_of_not_takes {o : Outlet} (h : o.takes v = false) : run ⟨o, v⟩ s = (.ok (), s) := by
  have hgate {evenWhenOk : Bool} (hclosed : v.result.callsFor evenWhenOk = false) :
      ¬v.result.callsFor evenWhenOk = true := by
    rw [hclosed]
    exact Bool.false_ne_true
  cases o with
  | bus settings id =>
    rw [run, Outlet.handler, PublisherSettings.handler, Handler.handle_uniform, if_neg (hgate h)]
    rfl
  | mail sender =>
    rw [run, Outlet.handler, MailSender.handler, Handler.handle_uniform, if_neg (hgate h)]
    rfl
  | records settings =>
    rw [run, Outlet.handler, PersisterSettings.handler, Handler.handle_uniform, if_neg (hgate h)]
    rfl
  | stream id => cases h

theorem run_bus {settings : PublisherSettings} {id : BusId}
    (h : v.result.callsFor settings.evenWhenOk = true) :
    run ⟨.bus settings id, v⟩ s = (.ok (), s.post id v.event) := by
  rw [run, Outlet.handler, PublisherSettings.handler, Handler.handle_uniform, if_pos h]
  rfl

/-- What the store answers to a persister that takes a result. -/
def filed (settings : PersisterSettings) (v : Verdict) (s : Sinks) :
    Except HandlerError (String × MemoryStore) :=
  s.store.create (Record.folder settings.root (s.stamps s.stamped).time)
    (Record.name v.subject.propertyType (s.stamps s.stamped).id) (PersisterSettings.recordOf v.finding)

theorem run_records_of_ok {settings : PersisterSettings} {path : String} {store : MemoryStore}
    (h : v.result.callsFor settings.evenWhenOk = true) (hfiled : filed settings v s = .ok (path, store)) :
    run ⟨.records settings, v⟩ s = (.ok (), { s with store, stamped := s.stamped + 1 }) := by
  show (settings.handler.handle v.result v.subject).run.run s = _
  rw [filed, Verdict.finding] at hfiled
  rw [PersisterSettings.handle_of_callsFor h, hfiled]

theorem run_records_of_error {settings : PersisterSettings} {e : HandlerError}
    (h : v.result.callsFor settings.evenWhenOk = true) (hfiled : filed settings v s = .error e) :
    run ⟨.records settings, v⟩ s = (.error (.error e), { s with stamped := s.stamped + 1 }) := by
  show (settings.handler.handle v.result v.subject).run.run s = _
  rw [filed, Verdict.finding] at hfiled
  rw [PersisterSettings.handle_of_callsFor h, hfiled]

/-- The sinks behind a row of calls. -/
def after (cs : List Handover) (s : Sinks) : Sinks := cs.foldl (fun s c => (c.run s).2) s

/-- The calls of a row that fail, and how. -/
def failures : List Handover → Sinks → List HandlerFailure
  | [], _ => []
  | c :: cs, s => (Dispatcher.failureOf c.outlet.handler (c.run s).1).toList ++ failures cs (c.run s).2

/-- What is true of the sinks with regard to the calls that are still to come, and stays true. -/
def Kept (P : List Handover → Sinks → Prop) : Prop :=
  ∀ (c : Handover) (rest : List Handover) (s : Sinks), P (c :: rest) s → P rest (c.run s).2

namespace Kept

variable {P : List Handover → Sinks → Prop} {cs rest : List Handover}

theorem after (hP : Kept P) (hs : P (cs ++ rest) s) : P rest (after cs s) := by
  induction cs generalizing s with
  | nil => exact hs
  | cons c cs ih => exact ih (hP c (cs ++ rest) s hs)

/-- Calls in a row that each have a share in a part of the sinks: one share after the other. -/
theorem part {ρ β : Type} {step : ρ → β → ρ} {share : Handover → List β} (hP : Kept P)
    (get : Sinks → ρ) (hstep : ∀ c rest s, P (c :: rest) s → get (c.run s).2 = (share c).foldl step (get s))
    (hs : P cs s) : get (Handover.after cs s) = (cs.flatMap share).foldl step (get s) := by
  induction cs generalizing s with
  | nil => rfl
  | cons c cs ih =>
    rw [List.flatMap_cons, List.foldl_append, ← hstep c cs s hs]
    exact ih (hP c cs s hs)

theorem names {bad : Handover → Bool} (hP : Kept P)
    (hbad : ∀ c rest s, P (c :: rest) s → ((c.run s).1 = .ok () ↔ bad c = false))
    (hs : P (cs ++ rest) s) :
    (failures cs s).map (·.handler) = (cs.filter bad).map (·.outlet.handler.name) := by
  induction cs generalizing s with
  | nil => rfl
  | cons c cs ih =>
    have hcall := hbad c (cs ++ rest) s hs
    have hrest := ih (hP c (cs ++ rest) s hs)
    rw [failures, List.map_append, hrest]
    cases hc : bad c with
    | false =>
      rw [List.filter_cons_of_neg (Bool.eq_false_iff.mp hc), hcall.mpr hc]
      rfl
    | true =>
      have hfailed : (c.run s).1 ≠ .ok () := fun hok => by
        rw [hcall.mp hok] at hc
        cases hc
      rw [List.filter_cons_of_pos hc, List.map_cons]
      obtain ⟨fault, hfault⟩ : ∃ fault, (c.run s).1 = .error fault := by
        cases hrun : (c.run s).1 with
        | error fault => exact ⟨fault, rfl⟩
        | ok u => exact absurd hrun hfailed
      rw [hfault]
      cases fault <;> rfl

end Kept

end Handover

end Sentinel
