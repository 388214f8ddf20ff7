import Mathlib.Data.List.Forall2
import Sentinel.Proofs.Dig.Defaults
import Sentinel.Proofs.Dig.Refusal
import Sentinel.Proofs.Pipeline.Mailing
/-!
# Which pipelines are built

A pipeline with all its collaborators is built from a configuration that is validated, and validation is
the only thing that refuses it: what the senders of mails and the change diggers check by themselves has
been checked before. What validation does not look at is how many workers a change digger has, and there
the build panics.

1. `mailHandlers_of_admitted`, `startDiggers_cases`: admitted settings have their senders and diggers.
2. `build_of_refused`, `build_of_admitted`: a build is refused where validation is, and otherwise it panics
   or has what the configuration asks for.
3. `dig_not_refused`: a dig with admitted defaults is refused where there is no node, and else nowhere.
4. `build_of_complete`: all of this at once, for the capacities that channels can have.
-/

namespace Sentinel

theorem Dispatcher.handlers_attachAll {σ : Type} (d : Dispatcher σ) (hs : List (Handler σ)) :
    (d.attachAll hs).handlers.map (·.2) = d.handlers.map (·.2) ++ hs := by
  induction hs generalizing d with
  | nil => exact (List.append_nil _).symm
  | cons h hs ih =>
    have hfirst : (d.attach h).2.handlers.map (·.2) = d.handlers.map (·.2) ++ [h] := by
      rw [attach, List.map_append]
      rfl
    show ((d.attach h).2.attachAll hs).handlers.map (·.2) = _
    rw [ih, hfirst, List.append_assoc]
    rfl

namespace MailSender

theorem ofSettings_of_admitted {m : MailSettings} (h : m.IsAdmitted) :
    ∃ sender, ofSettings m = .ok sender ∧ sender.settings = m := by
  obtain ⟨subject, hs⟩ := h.subject
  obtain ⟨text, ht⟩ := h.text
  obtain ⟨html, hh⟩ := h.html
  refine ⟨⟨m, subject, text, html⟩, ?_, rfl⟩
  rw [ofSettings]
  simp only [hs, ht, hh]
  rfl

theorem settings_of_ofSettings {m : MailSettings} {sender : MailSender} (h : ofSettings m = .ok sender) :
    sender.settings = m := by
  rw [ofSettings] at h
  obtain ⟨subject, -, h⟩ := bind_eq_ok.mp h
  obtain ⟨text, -, h⟩ := bind_eq_ok.mp h
  obtain ⟨html, -, h⟩ := bind_eq_ok.mp h
  cases h
  rfl

end MailSender

/-- Settings for a channel that can be made and for workers that can be listed. -/
def ChangeDigSettings.Fits (s : ChangeDigSettings) : Prop :=
  s.capacity ≤ maxChannelCapacity ∧ s.workers ≤ maxWorkers

theorem ChangeDigSettings.not_fits_iff {s : ChangeDigSettings} :
    ¬s.Fits ↔ maxChannelCapacity < s.capacity ∨ maxWorkers < s.workers := by
  rw [Fits]
  omega

namespace ChangeDigger

/-- A digger as settings describe it, before its first notification. -/
structure Follows [SizeLimit] (d : ChangeDigger) (s : ChangeDigSettings) : Prop where
  settings : d.settings = s
  pattern : PathPattern.ofSource? s.pathPattern = .ok d.pattern
  idle : d.waiting = []

/-- With admitted settings a digger starts, or it panics where they do not fit. -/
theorem start_cases [SizeLimit] {s : ChangeDigSettings} (h : s.IsAdmitted) :
    (s.Fits ∧ ∃ d, start s = .ok d ∧ d.Follows s) ∨ (¬s.Fits ∧ start s = .error .panic) := by
  obtain ⟨p, hp⟩ := h.pattern
  have hv : s.validate = .ok () := ChangeDigSettings.validate_eq_ok_iff.mpr h
  by_cases hf : s.Fits
  · exact .inl ⟨hf, _, start_eq hp hv hf.1 hf.2, rfl, hp, rfl⟩
  · refine .inr ⟨hf, ?_⟩
    unfold start
    simp only [hv, hp]
    exact if_neg hf

end ChangeDigger

/-- All collaborators, with a bus to post to; the registry may be left to the pipeline. -/
def Collaborators.complete (bus : BusId) (registry : Option RegistryId) : Collaborators :=
  ⟨true, true, true, some bus, true, true, registry⟩

namespace Pipeline

variable {configuration : Configuration}

/-- A sender for each of the mail settings, made from them. -/
def AreSenders (ms : List MailSettings) (senders : List MailSender) : Prop :=
  List.Forall₂ (fun m sender => MailSender.ofSettings m = .ok sender) ms senders

/-- The handlers that a configuration asks for: one for the bus where there is a publisher, one for each
mail and for each root of records, and one for the registry where findings are streamed. -/
def handlersOf (configuration : Configuration) (senders : List MailSender) (bus : BusId)
    (registry : RegistryId) : List (Handler Sinks) :=
  (configuration.publisher.map (·.handler bus)).toList ++ senders.map (·.handler) ++
    configuration.persisters.map (·.handler) ++
    if configuration.streaming.enabled then [broadcaster registry] else []

/-- A pipeline with the handlers and the diggers that its configuration asks for. -/
structure Realizes [SizeLimit] (p : Pipeline) (configuration : Configuration) (bus : BusId)
    (registry : RegistryId) (senders : List MailSender) : Prop where
  configured : p.configuration = configuration
  registered : p.registry = registry
  mailing : AreSenders configuration.mails senders
  handling : p.dispatcher.handlers.map (·.2) = handlersOf configuration senders bus registry
  digging : List.Forall₂ ChangeDigger.Follows p.diggers configuration.changeDigs

theorem Realizes.settings_diggers [SizeLimit] {p : Pipeline} {bus : BusId} {registry : RegistryId}
    {senders : List MailSender} (h : p.Realizes configuration bus registry senders) :
    p.diggers.map (·.settings) = configuration.changeDigs := by
  have hall := h.digging.imp fun d s hd => hd.settings
  rwa [← List.forall₂_map_left_iff (R := (· = ·)), List.forall₂_eq_eq_eq] at hall

theorem AreSenders.recipients {ms : List MailSettings} {senders : List MailSender} (h : AreSenders ms senders)
    (hms : ∀ m ∈ ms, m.IsAdmitted) : ∀ sender ∈ senders, addresses sender.settings.recipients ≠ [] := by
  induction h with
  | nil => exact fun sender hs => absurd hs List.not_mem_nil
  | cons hsender _ ih =>
    obtain ⟨hm, hms⟩ := List.forall_mem_cons.mp hms
    refine List.forall_mem_cons.mpr ⟨?_, ih hms⟩
    rw [MailSender.settings_of_ofSettings hsender]
    exact hm.recipients

theorem AreSenders.exists_of_mem {ms : List MailSettings} {senders : List MailSender} (h : AreSenders ms senders)
    {m : MailSettings} (hm : m ∈ ms) : ∃ sender ∈ senders, MailSender.ofSettings m = .ok sender := by
  induction h with
  | nil => cases hm
  | cons hsender _ ih =>
    cases hm with
    | head => exact ⟨_, List.mem_cons_self, hsender⟩
    | tail _ hm =>
      obtain ⟨sender, hmem, hs⟩ := ih hm
      exact ⟨sender, List.mem_cons_of_mem _ hmem, hs⟩

theorem Realizes.mem_handlers [SizeLimit] {p : Pipeline} {bus : BusId} {registry : RegistryId}
    {senders : List MailSender} (h : p.Realizes configuration bus registry senders) {sender : MailSender}
    (hs : sender ∈ senders) : sender.handler ∈ p.dispatcher.handlers.map (·.2) := by
  rw [h.handling]
  exact List.mem_append_left _ (List.mem_append_left _ (List.mem_append_right _ (List.mem_map_of_mem hs)))

theorem mailHandlers_of_admitted {ms : List MailSettings} (h : ∀ m ∈ ms, m.IsAdmitted) :
    ∃ senders, AreSenders ms senders ∧ mailHandlers ms = .ok (senders.map (·.handler)) := by
  induction ms with
  | nil => exact ⟨[], .nil, rfl⟩
  | cons m ms ih =>
    obtain ⟨hm, hms⟩ := List.forall_mem_cons.mp h
    obtain ⟨sender, hsender, -⟩ := MailSender.ofSettings_of_admitted hm
    obtain ⟨senders, hall, hhandlers⟩ := ih hms
    refine ⟨sender :: senders, .cons hsender hall, ?_⟩
    rw [mailHandlers, hsender, hhandlers]
    rfl

theorem startDiggers_cases [SizeLimit] {ss : List ChangeDigSettings} (h : ∀ s ∈ ss, s.IsAdmitted) :
    ((∀ s ∈ ss, s.Fits) ∧ ∃ ds, startDiggers ss = .ok ds ∧ List.Forall₂ ChangeDigger.Follows ds ss) ∨
      ((∃ s ∈ ss, ¬s.Fits) ∧ startDiggers ss = .error .panic) := by
  induction ss with
  | nil => exact .inl ⟨fun s hs => absurd hs List.not_mem_nil, [], rfl, .nil⟩
  | cons s ss ih =>
    obtain ⟨hs, hss⟩ := List.forall_mem_cons.mp h
    rw [startDiggers]
    obtain ⟨hf, d, hd, hfollows⟩ | ⟨hf, hd⟩ := ChangeDigger.start_cases hs
    · obtain ⟨hfs, ds, hds, hall⟩ | ⟨⟨t, ht, hft⟩, hds⟩ := ih hss
      · refine .inl ⟨List.forall_mem_cons.mpr ⟨hf, hfs⟩, d :: ds, ?_, .cons hfollows hall⟩
        rw [hd, hds]
        rfl
      · refine .inr ⟨⟨t, List.mem_cons_of_mem s ht, hft⟩, ?_⟩
        rw [hd, hds]
        rfl
    · refine .inr ⟨⟨s, List.mem_cons_self, hf⟩, ?_⟩
      rw [hd]
      rfl

theorem handlersFor_complete [SizeLimit] (h : configuration.IsAdmitted) (bus : BusId)
    (given : Option RegistryId) (registry : RegistryId) :
    ∃ senders, AreSenders configuration.mails senders ∧
      handlersFor configuration (.complete bus given) bus registry =
        .ok (handlersOf configuration senders bus registry) := by
  obtain ⟨senders, hall, hhandlers⟩ := mailHandlers_of_admitted h.mails
  refine ⟨senders, hall, ?_⟩
  rw [handlersFor, hhandlers]
  cases configuration.mails.isEmpty <;> cases configuration.persisters.isEmpty <;> rfl

theorem build_of_refused [SizeLimit] {e : DispatchError} (h : configuration.validate = .error e)
    (c : Collaborators) (s : Sinks) : build configuration c s = .error (.error e) := by
  rw [build, h]
  rfl

/-- With all collaborators the build of an admitted configuration panics, where the settings of a digger do
not fit, or has what the configuration asks for. -/
theorem build_of_admitted [SizeLimit] (h : configuration.IsAdmitted) (bus : BusId) (given : Option RegistryId)
    (s : Sinks) :
    let built := build configuration (.complete bus given) s
    let registry := registryFor (.complete bus given) s
    ((∃ d ∈ configuration.changeDigs, ¬d.Fits) ∧ built = .error .panic) ∨
      ((∀ d ∈ configuration.changeDigs, d.Fits) ∧ ∃ p senders, built = .ok (p, registry.2) ∧
        p.Realizes configuration bus registry.1 senders) := by
  intro built registry
  obtain ⟨senders, hsenders, hhandlers⟩ := handlersFor_complete h bus given registry.1
  let handlers := handlersOf configuration senders bus registry.1
  have hbuilt : built = (do
      let diggers ← startDiggers configuration.changeDigs
      return (⟨configuration, Dispatcher.empty.attachAll handlers, registry.1, diggers⟩, registry.2)) := by
    show build _ _ _ = _
    rw [build, Configuration.validate_eq_ok_iff.mpr h]
    show (handlersFor configuration (.complete bus given) bus registry.1).mapError Fault.error >>= _ = _
    rw [hhandlers]
    rfl
  obtain ⟨hf, ds, hds, hall⟩ | ⟨hf, hds⟩ := startDiggers_cases h.changeDigs
  · let p : Pipeline := ⟨configuration, Dispatcher.empty.attachAll handlers, registry.1, ds⟩
    have hp : built = .ok (p, registry.2) := by
      rw [hbuilt, hds]
      rfl
    exact .inr ⟨hf, p, senders, hp, rfl, rfl, hsenders, Dispatcher.handlers_attachAll .empty handlers, hall⟩
  · refine .inl ⟨hf, ?_⟩
    rw [hbuilt, hds]
    rfl

theorem dig_not_refused [SizeLimit] {p : Pipeline} (h : p.configuration.treeDig.IsAdmitted) (r : Repository)
    (path : String) {s s' : DigState} {e : DispatchError}
    (hdig : (p.dig r path).run.run s = (.error e, s')) (he : e.isValidation = true) :
    e = .validation "path" ("No node at given path found: " ++ path) := by
  obtain ⟨pattern, hpattern⟩ := h.pattern
  let request : DigRequest := ⟨path, pattern, PropertyType.ordered p.configuration.treeDig.propertyTypes,
    p.configuration.treeDig.maxLength, p.configuration.treeDig.maxDepth⟩
  have hvalid : request.scope.IsValid := ⟨h.maxLength, h.maxDepth, PropertyType.ordered_ne_nil h.types⟩
  have hrun : p.dig r path = DigCall.digAt (DigCall.aimIn r (.ok request)) := by
    rw [show p.dig r path = (DigCall.fromPath p r path).run from rfl, DigCall.run_eq, DigCall.aim,
      DigRequest.ofSettings_eq hpattern path]
  rw [hrun] at hdig
  rcases DigCall.error_of_digAt hdig with ⟨haim, -⟩ | ⟨hstops, -⟩
  · simp only [DigCall.aimIn] at haim
    cases hopen : Session.openOn r with
    | error cause =>
      rw [hopen] at haim
      cases haim
      cases he
    | ok session =>
      simp only [hopen, DigCall.aimOf] at haim
      cases hnode : session.node? request.path with
      | error cause =>
        rw [hnode] at haim
        cases haim
        rfl
      | ok root =>
        rw [hnode] at haim
        cases (DigCall.aimFrom_of_isValid root hvalid).symm.trans haim
  · rw [hstops.isValidation] at he
    cases he

/-- A pipeline with all its collaborators, and with capacities that channels can have: what validation
says against its configuration, the build says; a validated configuration has a pipeline that does as the
configuration asks, none of whose senders is without a recipient, and none of whose digs is refused for its
limits or its types; but with more workers than can be listed, the build panics. -/
theorem build_of_complete [SizeLimit] (configuration : Configuration) (bus : BusId) (given : Option RegistryId)
    (s : Sinks) (hc : ∀ d ∈ configuration.changeDigs, d.capacity ≤ maxChannelCapacity) :
    let built := build configuration (.complete bus given) s
    let registry := registryFor (.complete bus given) s
    (∀ e, configuration.validate = .error e → built = .error (.error e)) ∧
    (configuration.validate = .ok () →
      ((∃ d ∈ configuration.changeDigs, maxWorkers < d.workers) → built = .error .panic) ∧
      ((∀ d ∈ configuration.changeDigs, d.workers ≤ maxWorkers) →
        ∃ p senders, built = .ok (p, registry.2) ∧ p.Realizes configuration bus registry.1 senders ∧
          (∀ sender ∈ senders, ∀ f reason, sender.compose f ≠ .error (.error (.mail reason))) ∧
          ∀ (r : Repository) path (d d' : DigState) e, (p.dig r path).run.run d = (.error e, d') →
            e.isValidation = true → e = .validation "path" ("No node at given path found: " ++ path))) := by
  intro built registry
  refine ⟨fun e he => build_of_refused he _ s, fun hv => ?_⟩
  have ha : configuration.IsAdmitted := Configuration.validate_eq_ok_iff.mp hv
  obtain ⟨⟨d, hd, hunfit⟩, hpanic⟩ | ⟨hfit, p, senders, hbuilt, hp⟩ := build_of_admitted ha bus given s
  · refine ⟨fun _ => hpanic, fun hw => ?_⟩
    exact absurd ⟨hc d hd, hw d hd⟩ hunfit
  · refine ⟨?_, fun _ => ⟨p, senders, hbuilt, hp, ?_, ?_⟩⟩
    · rintro ⟨d, hd, hw⟩
      exact absurd (hfit d hd).2 (Nat.not_le_of_lt hw)
    · intro sender hsender f reason hmail
      have hr := hp.mailing.recipients ha.mails sender hsender
      obtain ⟨⟨mail, hok⟩, -⟩ | ⟨hpanic, -⟩ := MailSender.compose_cases hr f
      · cases hok.symm.trans hmail
      · cases hpanic.symm.trans hmail
    · intro r path d d' e hdig he
      refine dig_not_refused ?_ r path hdig he
      rw [hp.configured]
      exact ha.treeDig

/-- A mail whose subject is the path, and which has no text. -/
def alert : MailSettings where
  recipients := [" a@b "]
  subject := "\x7b\x7bpath\x7d\x7d"
  text := ""

/-- Two change diggers, a mail, a root of records and a stream. -/
def manifold : Configuration where
  changeDigs := [{}, { propertyType := .string, workers := 1 }]
  mails := [alert]
  persisters := [{}]

/-- No sinks yet, and identifiers that are counted up. -/
def noSinks : Sinks := .empty fun n => ⟨.epoch, ⟨.ofNat 122 n⟩⟩

section Unbounded

attribute [local instance] SizeLimit.unbounded

/-- The four kinds of handlers are attached in their order, and both diggers start. -/
theorem build_of_complete_manifold :
    manifold.validate = .ok () ∧ (∀ d ∈ manifold.changeDigs, d.capacity ≤ maxChannelCapacity) ∧
      ∃ p, build manifold (.complete 0 none) noSinks = .ok (p, (registryFor (.complete 0 none) noSinks).2) ∧
        p.dispatcher.names = ["event-publisher", "mail-sender", "resource-persister", "sse-broadcaster"] ∧
        p.diggers.map (·.settings.propertyType) = [.binary, .string] := by
  have hv : manifold.validate = .ok () := Configuration.validate_of_isOk (by decide +kernel)
  have hc : ∀ d ∈ manifold.changeDigs, d.capacity ≤ maxChannelCapacity := by decide
  obtain ⟨-, hok⟩ := build_of_complete manifold 0 none noSinks hc
  obtain ⟨p, senders, hbuilt, hp, -⟩ := (hok hv).2 (by decide)
  refine ⟨hv, hc, p, hbuilt, ?_, ?_⟩
  · have hmailing : AreSenders [alert] senders := hp.mailing
    obtain ⟨sender, rest, -, hrest, rfl⟩ := List.forall₂_cons_left_iff.mp hmailing
    cases hrest
    have hnames : p.dispatcher.names = (p.dispatcher.handlers.map (·.2)).map (·.name) := by
      rw [List.map_map]
      rfl
    rw [hnames, hp.handling]
    rfl
  · have htypes := congrArg (List.map (·.propertyType)) hp.settings_diggers
    rwa [List.map_map] at htypes

/-- A change digger with as many workers as a machine word can name. -/
def crowded : Configuration where
  changeDigs := [{ workers := 18446744073709551615 }]

/-- The crowded configuration is validated, and its build panics. -/
theorem build_panics_crowded :
    crowded.validate = .ok () ∧ (∀ d ∈ crowded.changeDigs, d.capacity ≤ maxChannelCapacity) ∧
      build crowded (.complete 0 none) noSinks = .error .panic := by
  have hv : crowded.validate = .ok () := Configuration.validate_of_isOk (by decide +kernel)
  refine ⟨hv, by decide, ?_⟩
  obtain ⟨-, hpanic⟩ | ⟨hfit, -⟩ := build_of_admitted (Configuration.validate_eq_ok_iff.mp hv) 0 none noSinks
  · exact hpanic
  · exact absurd (hfit _ List.mem_cons_self).2 (by decide)

end Unbounded

end Pipeline

end Sentinel
