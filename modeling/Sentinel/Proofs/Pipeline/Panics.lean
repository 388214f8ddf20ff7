import Sentinel.Proofs.Pipeline.Assembly
/-!
# Where a validated configuration panics

Validation compiles templates and rejects what is zero. It looks neither at what a template asks for, nor
at how much a channel holds or how many workers can be listed. So a configuration may be validated and
panic all the same, and this is exactly where: at a capacity or a number of workers that is too large, and
at a template that is baffled by a finding.

1. `onChange_outcome`, `openStream_eq_none_iff`: a notification never panics, a stream does beyond its
   capacity.
2. `validated_panics`: where the build, the streams and the senders of a validated configuration panic.
-/

namespace Sentinel

namespace ChangeDigger

/-- The one reason for which a digger rejects a notification. -/
theorem notify_error {d : ChangeDigger} {path : String} {added changed : List String} {userId : Option String}
    {e : DispatchError} (h : d.notify path added changed userId = .error e) :
    e = .rejected "change dig queue is full" := by
  unfold notify at h
  split at h
  · cases h
  · split at h
    · cases h
    · cases h
      rfl

end ChangeDigger

namespace Pipeline

variable {configuration : Configuration}

theorem notifyEach_rejection (path : String) (added changed : List String) (userId : Option String)
    (ds : List ChangeDigger) :
    (notifyEach path added changed userId ds).2.2 = none ∨
      (notifyEach path added changed userId ds).2.2 = some (.rejected "change dig queue is full") := by
  induction ds with
  | nil => exact .inl rfl
  | cons d ds ih =>
    rw [notifyEach]
    cases h : d.notify path added changed userId with
    | error e =>
      rw [ChangeDigger.notify_error h]
      exact .inr rfl
    | ok taken => exact ih

/-- A notification is taken, or rejected by a digger that has no place. -/
theorem onChange_outcome (p : Pipeline) (path : String) (added changed : List String)
    (userId : Option String) :
    (∃ queued, (p.onChange path added changed userId).1 = .ok queued) ∨
      (p.onChange path added changed userId).1 = .error (.rejected "change dig queue is full") := by
  rw [onChange]
  rcases notifyEach_rejection path added changed userId p.diggers with h | h
  · simp only [h]
    exact .inl ⟨_, rfl⟩
  · right
    simp only [h]

theorem openStream_eq_none_iff (p : Pipeline) (s : Sinks) :
    p.openStream s = none ↔ maxFrames < p.configuration.streaming.capacity := by
  rw [openStream, OpenStream.openOn, EventStream.openOn]
  split <;> simp [*]

/-- Whatever is built from a configuration does as the configuration asks, with the same senders. -/
theorem exists_senders [SizeLimit] (h : configuration.IsAdmitted) (bus : BusId) (given : Option RegistryId)
    (s : Sinks) :
    ∃ senders, AreSenders configuration.mails senders ∧
      ∀ p s', build configuration (.complete bus given) s = .ok (p, s') →
        p.Realizes configuration bus (registryFor (.complete bus given) s).1 senders := by
  obtain ⟨-, hpanic⟩ | ⟨-, p, senders, hbuilt, hp⟩ := build_of_admitted h bus given s
  · obtain ⟨senders, hsenders, -⟩ := mailHandlers_of_admitted h.mails
    refine ⟨senders, hsenders, fun p s' hok => ?_⟩
    cases hpanic.symm.trans hok
  · refine ⟨senders, hp.mailing, fun p' s' hok => ?_⟩
    cases hbuilt.symm.trans hok
    exact hp

/-- With all collaborators, a validated configuration is never refused. Its build panics where a channel is
too large or there are too many workers; a stream panics where its channel is too large; a notification
never does; and a sender panics about a finding that one of its templates is baffled by. -/
theorem validated_panics [SizeLimit] (hv : configuration.validate = .ok ()) (bus : BusId)
    (given : Option RegistryId) (s : Sinks) :
    let built := build configuration (.complete bus given) s
    (∀ e, built ≠ .error (.error e)) ∧
    (built = .error .panic ↔
      ∃ d ∈ configuration.changeDigs, maxChannelCapacity < d.capacity ∨ maxWorkers < d.workers) ∧
    (∀ p : Pipeline, p.configuration = configuration →
      (∀ s, p.openStream s = none ↔ maxFrames < configuration.streaming.capacity) ∧
      ∀ path added changed userId,
        (∃ queued, (p.onChange path added changed userId).1 = .ok queued) ∨
          (p.onChange path added changed userId).1 = .error (.rejected "change dig queue is full")) ∧
    ∃ senders, AreSenders configuration.mails senders ∧
      (∀ p s', built = .ok (p, s') →
        p.Realizes configuration bus (registryFor (.complete bus given) s).1 senders) ∧
      ∀ sender ∈ senders, ∀ f : Finding,
        (∃ mail, sender.compose f = .ok mail) ∧ (∀ t ∈ sender.templates, ¬f.Baffles t) ∨
          sender.compose f = .error .panic ∧ ∃ t ∈ sender.templates, f.Baffles t := by
  intro built
  have ha : configuration.IsAdmitted := Configuration.validate_eq_ok_iff.mp hv
  have hunfit : (∃ d ∈ configuration.changeDigs, ¬d.Fits) ↔
      ∃ d ∈ configuration.changeDigs, maxChannelCapacity < d.capacity ∨ maxWorkers < d.workers :=
    exists_congr fun d => and_congr_right fun _ => ChangeDigSettings.not_fits_iff
  obtain ⟨senders, hsenders, hrealizes⟩ := exists_senders ha bus given s
  have hcompose : ∀ sender ∈ senders, ∀ f : Finding,
      (∃ mail, sender.compose f = .ok mail) ∧ (∀ t ∈ sender.templates, ¬f.Baffles t) ∨
        sender.compose f = .error .panic ∧ ∃ t ∈ sender.templates, f.Baffles t :=
    fun sender hs => MailSender.compose_cases (hsenders.recipients ha.mails sender hs)
  have hserves : ∀ p : Pipeline, p.configuration = configuration →
      (∀ s, p.openStream s = none ↔ maxFrames < configuration.streaming.capacity) ∧
      ∀ path added changed userId,
        (∃ queued, (p.onChange path added changed userId).1 = .ok queued) ∨
          (p.onChange path added changed userId).1 = .error (.rejected "change dig queue is full") := by
    rintro p rfl
    exact ⟨p.openStream_eq_none_iff, p.onChange_outcome⟩
  rw [← hunfit]
  obtain ⟨hunfit, hpanic⟩ | ⟨hfit, p, _, hbuilt, -⟩ := build_of_admitted ha bus given s
  · refine ⟨fun e he => ?_, iff_of_true hpanic hunfit, hserves, senders, hsenders, hrealizes, hcompose⟩
    cases hpanic.symm.trans he
  · refine ⟨fun e he => ?_, iff_of_false ?_ ?_, hserves, senders, hsenders, hrealizes, hcompose⟩
    · cases hbuilt.symm.trans he
    · exact fun hpanic => by cases hbuilt.symm.trans hpanic
    · exact fun ⟨d, hd, hunfit⟩ => hunfit (hfit d hd)

theorem not_baffles_path (f : Finding) : ¬f.Baffles ⟨[.variable ["path".toList] true]⟩ := by
  rintro ⟨name, there, h, hname⟩
  cases h with
  | tag => simp at hname
  | later p h => cases h

section Unbounded

attribute [local instance] SizeLimit.unbounded

/-- With a mail that asks for the path, two change diggers and a stream, nothing panics. -/
theorem validated_panics_manifold :
    manifold.validate = .ok () ∧ ∃ p s', build manifold (.complete 0 none) noSinks = .ok (p, s') ∧
      (∀ s, p.openStream s ≠ none) ∧ ∃ sender : MailSender,
        sender.handler ∈ p.dispatcher.handlers.map (·.2) ∧ ∀ f, ∃ mail, sender.compose f = .ok mail := by
  have hv : manifold.validate = .ok () := Configuration.validate_of_isOk (by decide +kernel)
  obtain ⟨hnever, hpanics, hserves, senders, hsenders, hrealizes, hcompose⟩ :=
    validated_panics hv 0 none noSinks
  have hsender : MailSender.ofSettings alert = .ok ⟨alert, some ⟨[.variable ["path".toList] true]⟩, none, none⟩ :=
    rfl
  obtain ⟨sender, hmem, hs⟩ := hsenders.exists_of_mem (m := alert) List.mem_cons_self
  obtain rfl := Except.ok.inj (hsender.symm.trans hs)
  cases hbuilt : build manifold (.complete 0 none) noSinks with
  | error fault =>
    cases fault with
    | error e => exact absurd hbuilt (hnever e)
    | panic => exact absurd (hpanics.mp hbuilt) (by decide)
  | ok result =>
    obtain ⟨p, s'⟩ := result
    have hp := hrealizes p s' hbuilt
    refine ⟨hv, p, s', rfl, fun s hs => ?_, _, hp.mem_handlers hmem, fun f => ?_⟩
    · exact absurd (((hserves p hp.configured).1 s).mp hs) (by decide)
    · obtain ⟨hmail, -⟩ | ⟨-, t, ht, hbaffled⟩ := hcompose _ hmem f
      · exact hmail
      · obtain rfl := List.mem_singleton.mp ht
        exact absurd hbaffled (not_baffles_path f)

/-- A mail that asks for the text of a flag. -/
def riddle : MailSettings where
  recipients := ["a@b"]
  subject := ""
  text := "\x7b\x7bhasIndex\x7d\x7d"

/-- The mail that asks for the text of a flag, and streams of 2^61 frames. -/
def fragile : Configuration where
  mails := [riddle]
  streaming := { capacity := 2305843009213693952 }

/-- The fragile configuration is validated and its pipeline is built, but its streams panic, and its mails
panic about every finding. -/
theorem panics_fragile :
    fragile.validate = .ok () ∧ ∃ p s', build fragile (.complete 0 none) noSinks = .ok (p, s') ∧
      (∀ s, p.openStream s = none) ∧ ∃ sender : MailSender,
        sender.handler ∈ p.dispatcher.handlers.map (·.2) ∧ ∀ f, sender.compose f = .error .panic := by
  have hv : fragile.validate = .ok () := Configuration.validate_of_isOk (by decide +kernel)
  have ha : fragile.IsAdmitted := Configuration.validate_eq_ok_iff.mp hv
  obtain ⟨⟨d, hd, -⟩, -⟩ | ⟨-, p, senders, hbuilt, hp⟩ := build_of_admitted ha 0 none noSinks
  · cases hd
  · have hsender : MailSender.ofSettings riddle =
        .ok ⟨riddle, none, some ⟨[.variable ["hasIndex".toList] true]⟩, none⟩ := rfl
    obtain ⟨sender, hmem, hs⟩ := hp.mailing.exists_of_mem (m := riddle) List.mem_cons_self
    obtain rfl := Except.ok.inj (hsender.symm.trans hs)
    refine ⟨hv, p, _, hbuilt, fun s => ?_, _, hp.mem_handlers hmem, fun f => ?_⟩
    · rw [openStream_eq_none_iff, hp.configured]
      decide
    · obtain ⟨-, hfine⟩ | ⟨hpanic, -⟩ :=
        MailSender.compose_cases (hp.mailing.recipients ha.mails _ hmem) f
      · refine absurd ?_ (hfine ⟨[.variable ["hasIndex".toList] true]⟩ List.mem_cons_self)
        exact ⟨["hasIndex".toList], [], .tag true [], .inr (.inl rfl)⟩
      · exact hpanic

end Unbounded

end Pipeline

end Sentinel
