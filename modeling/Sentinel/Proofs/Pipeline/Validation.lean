import Sentinel.Pipeline
/-!
# What configurations are admitted

The conditions under which settings are admitted, each said of the settings alone, and that validation
decides them. What a validated configuration is used for takes its facts from here.

1. `forM_eq_ok`: a row of checks passes where each of them does.
2. `addresses_eq_nil_iff`: what counts as a recipient for a sender is what counts as one here.
3. `Configuration.validate_eq_ok_iff`: a configuration is validated where all its parts are admitted.
-/

namespace Sentinel

/-- A row of checks passes where each of them does. -/
theorem forM_eq_ok {ε α : Type} {check : α → Except ε Unit} {xs : List α} :
    xs.forM check = .ok () ↔ ∀ x ∈ xs, check x = .ok () := by
  induction xs with
  | nil => exact ⟨fun _ x hx => absurd hx List.not_mem_nil, fun _ => rfl⟩
  | cons x xs ih =>
    show (check x >>= fun _ => xs.forM check) = .ok () ↔ _
    rw [bind_eq_ok, List.forall_mem_cons, ← ih]
    constructor
    · rintro ⟨⟨⟩, hx, hxs⟩
      exact ⟨hx, hxs⟩
    · rintro ⟨hx, hxs⟩
      exact ⟨(), hx, hxs⟩

/-- Defaults of tree digs that a dig accepts. -/
structure TreeDigSettings.IsAdmitted [SizeLimit] (s : TreeDigSettings) : Prop where
  pattern : ∃ p, PathPattern.ofSource? s.pathPattern = .ok p
  types : s.propertyTypes ≠ []
  maxLength : -1 ≤ s.maxLength
  maxDepth : -1 ≤ s.maxDepth

theorem TreeDigSettings.validate_eq_ok_iff [SizeLimit] {s : TreeDigSettings} :
    s.validate = .ok () ↔ s.IsAdmitted := by
  rw [validate, bind_eq_ok]
  constructor
  · rintro ⟨p, hp, h⟩
    by_cases ht : s.propertyTypes = []
    · rw [ht] at h
      cases h
    · rw [if_neg (by simpa using ht)] at h
      obtain ⟨⟨⟩, hl, hd⟩ := bind_eq_ok.mp h
      exact ⟨⟨p, hp⟩, ht, Limit.check_eq_ok.mp hl, Limit.check_eq_ok.mp hd⟩
  · rintro ⟨⟨p, hp⟩, ht, hl, hd⟩
    refine ⟨p, hp, ?_⟩
    rw [if_neg (by simpa using ht)]
    exact bind_eq_ok.mpr ⟨(), Limit.check_eq_ok.mpr hl, Limit.check_eq_ok.mpr hd⟩

/-- Settings that a change digger accepts. -/
structure ChangeDigSettings.IsAdmitted [SizeLimit] (s : ChangeDigSettings) : Prop where
  pattern : ∃ p, PathPattern.ofSource? s.pathPattern = .ok p
  maxLength : -1 ≤ s.maxLength
  workers : s.workers ≠ 0
  capacity : s.capacity ≠ 0

theorem ChangeDigSettings.validate_eq_ok_iff [SizeLimit] {s : ChangeDigSettings} :
    s.validate = .ok () ↔ s.IsAdmitted := by
  rw [validate, bind_eq_ok]
  constructor
  · rintro ⟨p, hp, h⟩
    obtain ⟨⟨⟩, hl, h⟩ := bind_eq_ok.mp h
    by_cases hw : s.workers = 0
    · rw [if_pos hw] at h
      cases h
    · rw [if_neg hw] at h
      by_cases hc : s.capacity = 0
      · rw [if_pos hc] at h
        cases h
      · exact ⟨⟨p, hp⟩, Limit.check_eq_ok.mp hl, hw, hc⟩
  · rintro ⟨⟨p, hp⟩, hl, hw, hc⟩
    refine ⟨p, hp, bind_eq_ok.mpr ⟨(), Limit.check_eq_ok.mpr hl, ?_⟩⟩
    rw [if_neg hw, if_neg hc]
    rfl

/-- The addresses that a mail goes to are none where every one that is given is blank. -/
theorem addresses_eq_nil_iff {list : List String} :
    addresses list = [] ↔ list.all Text.isBlankText = true := by
  rw [addresses, List.filter_eq_nil_iff, List.all_eq_true]
  constructor
  · intro h a ha
    have hempty := h (Text.trim a) (List.mem_map_of_mem ha)
    rw [← Text.trim_eq_empty_iff]
    simpa using hempty
  · intro h trimmed ht
    obtain ⟨a, ha, rfl⟩ := List.mem_map.mp ht
    rw [(Text.trim_eq_empty_iff a).mpr (h a ha)]
    decide

/-- A text that is a template or stands for none. -/
def IsTemplateText (source : String) : Prop := ∃ t, compileTemplate source = .ok t

/-- Mail settings with a recipient, and with templates for texts. -/
structure MailSettings.IsAdmitted (m : MailSettings) : Prop where
  recipients : addresses m.recipients ≠ []
  subject : IsTemplateText m.subject
  text : IsTemplateText m.text
  html : IsTemplateText m.html

/-- A root of records that is absolute. -/
def PersisterSettings.IsAdmitted (p : PersisterSettings) : Prop := p.root.toList.head? = some '/'

namespace Configuration

theorem checkTemplates_eq_ok {sources : List String} :
    checkTemplates sources = .ok () ↔ ∀ source ∈ sources, IsTemplateText source := by
  induction sources with
  | nil => exact ⟨fun _ source hs => absurd hs List.not_mem_nil, fun _ => rfl⟩
  | cons source sources ih =>
    rw [checkTemplates, List.forall_mem_cons, ← ih]
    cases hsource : compileTemplate source with
    | error e =>
      constructor
      · intro h
        cases h
      · rintro ⟨⟨t, ht⟩, -⟩
        rw [hsource] at ht
        cases ht
    | ok t => exact ⟨fun h => ⟨⟨t, hsource⟩, h⟩, fun h => h.2⟩

theorem checkMail_eq_ok {m : MailSettings} : checkMail m = .ok () ↔ m.IsAdmitted := by
  rw [checkMail]
  by_cases hr : m.recipients.all Text.isBlankText = true
  · rw [if_pos hr]
    constructor
    · intro h
      cases h
    · intro h
      exact absurd (addresses_eq_nil_iff.mpr hr) h.recipients
  · rw [if_neg hr, checkTemplates_eq_ok]
    have hrecipients : addresses m.recipients ≠ [] := mt addresses_eq_nil_iff.mp hr
    constructor
    · intro h
      exact ⟨hrecipients, h m.subject (by simp), h m.text (by simp), h m.html (by simp)⟩
    · intro h source hs
      simp only [List.mem_cons, List.not_mem_nil, or_false] at hs
      rcases hs with rfl | rfl | rfl
      · exact h.subject
      · exact h.text
      · exact h.html

theorem checkPersister_eq_ok {p : PersisterSettings} : checkPersister p = .ok () ↔ p.IsAdmitted := by
  rw [checkPersister, PersisterSettings.IsAdmitted]
  split <;> simp [*, DispatchError.invalidValue]

/-- A configuration all parts of which are admitted. -/
structure IsAdmitted [SizeLimit] (c : Configuration) : Prop where
  treeDig : c.treeDig.IsAdmitted
  changeDigs : ∀ d ∈ c.changeDigs, d.IsAdmitted
  mails : ∀ m ∈ c.mails, m.IsAdmitted
  persisters : ∀ p ∈ c.persisters, p.IsAdmitted
  streaming : c.streaming.capacity ≠ 0

theorem validate_eq_ok_iff [SizeLimit] {c : Configuration} : c.validate = .ok () ↔ c.IsAdmitted := by
  have hdigs : c.changeDigs.forM (·.validate) = .ok () ↔ ∀ d ∈ c.changeDigs, d.IsAdmitted := by
    simp only [forM_eq_ok, ChangeDigSettings.validate_eq_ok_iff]
  have hmails : c.mails.forM checkMail = .ok () ↔ ∀ m ∈ c.mails, m.IsAdmitted := by
    simp only [forM_eq_ok, checkMail_eq_ok]
  have hpersisters : c.persisters.forM checkPersister = .ok () ↔ ∀ p ∈ c.persisters, p.IsAdmitted := by
    simp only [forM_eq_ok, checkPersister_eq_ok]
  rw [validate]
  constructor
  · intro h
    obtain ⟨⟨⟩, ht, h⟩ := bind_eq_ok.mp h
    obtain ⟨⟨⟩, hd, h⟩ := bind_eq_ok.mp h
    obtain ⟨⟨⟩, hm, h⟩ := bind_eq_ok.mp h
    obtain ⟨⟨⟩, hp, h⟩ := bind_eq_ok.mp h
    refine ⟨TreeDigSettings.validate_eq_ok_iff.mp ht, hdigs.mp hd, hmails.mp hm, hpersisters.mp hp, ?_⟩
    intro hc
    rw [if_pos hc] at h
    cases h
  · intro h
    rw [TreeDigSettings.validate_eq_ok_iff.mpr h.treeDig, hdigs.mpr h.changeDigs, hmails.mpr h.mails,
      hpersisters.mpr h.persisters, if_neg h.streaming]
    rfl

theorem validate_of_isOk [SizeLimit] {c : Configuration} (h : c.validate.isOk = true) : c.validate = .ok () := by
  cases hv : c.validate with
  | error e =>
    rw [hv] at h
    cases h
  | ok u => rfl

end Configuration

end Sentinel
