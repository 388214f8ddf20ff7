import Sentinel.Proofs.Json.Facts
import Sentinel.Proofs.Pipeline.Snippets
/-!
# What mails say where nothing else is asked for

The default templates are rows of snippets, so the text that they are filled in to is known for every
finding: each of its facts in a line of its own, and none of them read as a template again. The lines of
the index and of the user are there without them, but empty.

1. `compileTemplate_defaultSubject`, `compileTemplate_defaultText`: the templates as snippets.
2. `Finding.fill_subjectSnippets`, `Finding.fill_textSnippets`: what they are filled in to.
3. `addresses_eq`, `compose_eq_mail_error_iff`: who gets a mail, and when there is nobody to get it.
4. `default_mail_says_facts`: the whole mail.
-/

namespace Sentinel

open Template (Snippet)

def subjectSnippets : List Snippet :=
  [.plain "Scan result: ".toList, .value "status", .plain " for ".toList, .value "path",
    .optional "hasIndex" " ".toList "index"]

def textSnippets : List Snippet :=
  [.plain "status: ".toList, .value "status", .plain ('\n' :: "message: ".toList), .value "message",
    .plain ('\n' :: "path: ".toList), .value "path", .plain ['\n'],
    .optional "hasIndex" "index: ".toList "index", .plain ('\n' :: "size: ".toList), .value "size",
    .plain ['\n'], .optional "hasUserId" "userId: ".toList "userId",
    .plain ('\n' :: "started: ".toList), .value "startedIso", .plain ('\n' :: "timestamp: ".toList),
    .value "timestampIso", .plain ['\n']]

theorem compileTemplate_source {ps : List Snippet} (hrow : Snippet.IsRow ps) {name : String}
    (hvalue : .value name ∈ ps) :
    compileTemplate (String.ofList (ps.flatMap Snippet.source)) = .ok (some ⟨ps.map Snippet.part⟩) := by
  have hbrace : '\x7b' ∈ ps.flatMap Snippet.source := List.mem_flatMap.mpr ⟨_, hvalue, List.mem_cons_self⟩
  have hblank : Text.isBlankText (String.ofList (ps.flatMap Snippet.source)) = false := by
    rw [Text.isBlankText, String.toList_ofList, List.all_eq_false]
    exact ⟨_, hbrace, by decide⟩
  rw [compileTemplate, hblank, Snippet.parse_source hrow]
  rfl

theorem compileTemplate_defaultSubject :
    compileTemplate defaultSubject = .ok (some ⟨subjectSnippets.map Snippet.part⟩) := by
  have hsource : defaultSubject = String.ofList (subjectSnippets.flatMap Snippet.source) := by decide +kernel
  have hrow : Snippet.IsRow subjectSnippets := by decide
  have hvalue : .value "status" ∈ subjectSnippets := by simp [subjectSnippets]
  rw [hsource, compileTemplate_source hrow hvalue]

theorem compileTemplate_defaultText :
    compileTemplate defaultText = .ok (some ⟨textSnippets.map Snippet.part⟩) := by
  have hsource : defaultText = String.ofList (textSnippets.flatMap Snippet.source) := by decide +kernel
  have hrow : Snippet.IsRow textSnippets := by decide
  have hvalue : .value "status" ∈ textSnippets := by simp [textSnippets]
  rw [hsource, compileTemplate_source hrow hvalue]

namespace MailSender

theorem fill_snippets {values : Template.Values} {ps : List Snippet} (h : ∀ p ∈ ps, p.Fits values) :
    fill values (some ⟨ps.map Snippet.part⟩) = .ok (some (String.ofList (ps.flatMap (Snippet.filled values)))) := by
  rw [fill, Template.render?, Snippet.render?_parts h]
  rfl

end MailSender

/-- The moments of a finding are in the calendar. -/
structure Finding.IsDated (f : Finding) (started timestamp : Instant) : Prop where
  started : Instant.ofMillis? f.started = some started
  timestamp : Instant.ofMillis? f.timestamp = some timestamp

namespace Finding

/-- The subject that a mail has where no other is asked for. -/
def mailSubject (f : Finding) : String :=
  "Scan result: " ++ f.status.canonicalName ++ " for " ++ f.path ++
    (f.index.map fun i => " " ++ Text.natText i).getD ""

/-- The lines that a mail has where no other text is asked for. -/
def mailLines (f : Finding) (started timestamp : Instant) : List String :=
  ["status: " ++ f.status.canonicalName, "message: " ++ f.message, "path: " ++ f.path,
    (f.index.map fun i => "index: " ++ Text.natText i).getD "", "size: " ++ Text.natText f.size,
    (f.userId.map fun u => "userId: " ++ u).getD "", "started: " ++ started.withMillis,
    "timestamp: " ++ timestamp.withMillis]

theorem textOf_mailValues {f : Finding} {name s : String} (h : (name, .text s) ∈ f.mailFacts) :
    Snippet.textOf f.mailValues name = s.toList := by
  rw [Snippet.textOf, get?_mailValues.mpr h]

theorem textOf_facts (f : Finding) :
    Snippet.textOf f.mailValues "status" = f.status.canonicalName.toList ∧
      Snippet.textOf f.mailValues "message" = f.message.toList ∧
      Snippet.textOf f.mailValues "path" = f.path.toList ∧
      Snippet.textOf f.mailValues "size" = (Text.natText f.size).toList ∧
      Snippet.textOf f.mailValues "startedIso" = (isoText f.started).toList ∧
      Snippet.textOf f.mailValues "timestampIso" = (isoText f.timestamp).toList := by
  refine ⟨?_, ?_, ?_, ?_, ?_, ?_⟩
  all_goals
    apply textOf_mailValues
    simp [mailFacts]

/-- The index and the user are put in behind their leads, if there are any. -/
theorem filled_optional (f : Finding) (lead : String) :
    Snippet.filled f.mailValues (.optional "hasIndex" lead.toList "index") =
        ((f.index.map fun i => lead ++ Text.natText i).getD "").toList ∧
      Snippet.filled f.mailValues (.optional "hasUserId" lead.toList "userId") =
        ((f.userId.map fun u => lead ++ u).getD "").toList := by
  obtain ⟨hindex, huser⟩ := f.get?_flags
  constructor
  · rw [Snippet.filled, hindex]
    cases h : f.index with
    | none => rfl
    | some i =>
      have hmem : ("index", .text (Text.natText i)) ∈ f.mailFacts := by simp [mailFacts, h]
      simp [textOf_mailValues hmem]
  · rw [Snippet.filled, huser]
    cases h : f.userId with
    | none => rfl
    | some u =>
      have hmem : ("userId", .text u) ∈ f.mailFacts := by simp [mailFacts, h]
      simp [textOf_mailValues hmem]

theorem fill_subjectSnippets (f : Finding) :
    MailSender.fill f.mailValues (some ⟨subjectSnippets.map Snippet.part⟩) = .ok (some f.mailSubject) := by
  have hfits : ∀ p ∈ subjectSnippets, p.Fits f.mailValues := by
    simp [subjectSnippets, Snippet.Fits, isFlag_mailValues_iff]
  obtain ⟨hstatus, -, hpath, -⟩ := f.textOf_facts
  have htext : String.ofList (subjectSnippets.flatMap (Snippet.filled f.mailValues)) = f.mailSubject := by
    apply String.toList_injective
    rw [String.toList_ofList, subjectSnippets]
    unfold mailSubject
    simp only [List.flatMap_cons, List.flatMap_nil]
    rw [(f.filled_optional " ").1]
    simp only [Snippet.filled, hstatus, hpath, String.toList_append, List.append_assoc, List.append_nil]
  rw [MailSender.fill_snippets hfits, htext]

theorem fill_textSnippets {f : Finding} {started timestamp : Instant} (h : f.IsDated started timestamp) :
    MailSender.fill f.mailValues (some ⟨textSnippets.map Snippet.part⟩) =
      .ok (some (String.join ((f.mailLines started timestamp).map (· ++ "\n")))) := by
  have hfits : ∀ p ∈ textSnippets, p.Fits f.mailValues := by
    simp only [textSnippets, List.forall_mem_cons, Snippet.Fits, isFlag_mailValues_iff]
    simp
  have hstarted : isoText f.started = started.withMillis := by simp [isoText, h.started]
  have htimestamp : isoText f.timestamp = timestamp.withMillis := by simp [isoText, h.timestamp]
  obtain ⟨hstatus, hmessage, hpath, hsize, hiso, hthen⟩ := f.textOf_facts
  rw [hstarted] at hiso
  rw [htimestamp] at hthen
  have htext : String.ofList (textSnippets.flatMap (Snippet.filled f.mailValues)) =
      String.join ((f.mailLines started timestamp).map (· ++ "\n")) := by
    have hend : "\n".toList = ['\n'] := rfl
    apply String.toList_injective
    rw [String.toList_ofList, textSnippets]
    simp only [List.flatMap_cons, List.flatMap_nil]
    rw [(f.filled_optional "index: ").1, (f.filled_optional "userId: ").2]
    simp [Snippet.filled, hstatus, hmessage, hpath, hsize, hiso, hthen, mailLines, String.join, hend]
  rw [MailSender.fill_snippets hfits, htext]

end Finding

/-- The addresses of a list that are not blank, in order and without the blanks around them. -/
def filledAddresses (list : List String) : List String :=
  (list.filter fun a => !Text.isBlankText a).map Text.trim

theorem trim_isEmpty (a : String) : (Text.trim a).isEmpty = Text.isBlankText a := by
  rw [Bool.eq_iff_iff, String.isEmpty_iff, Text.trim_eq_empty_iff]

theorem addresses_eq (list : List String) : addresses list = filledAddresses list := by
  simp only [addresses, filledAddresses, List.filter_map, Function.comp_def, trim_isEmpty]

namespace MailSender

/-- Whatever the templates are, nobody to get the mail is the one thing that a mail fails of. -/
theorem compose_eq_mail_error_iff (m : MailSender) (f : Finding) :
    (∃ reason, m.compose f = .error (.error (.mail reason))) ↔
      ∀ a ∈ m.settings.recipients, Text.isBlankText a = true := by
  rw [← List.all_eq_true, ← addresses_eq_nil_iff]
  constructor
  · rintro ⟨reason, h⟩
    by_contra hne
    rcases compose_cases hne f with ⟨⟨mail, hmail⟩, -⟩ | ⟨hpanic, -⟩
    · rw [hmail] at h
      cases h
    · rw [hpanic] at h
      cases h
  · intro hnil
    exact ⟨"no recipients configured", by simp [compose, hnil]⟩

/-- Mails about findings in the calendar, where settings have the default templates and some recipient that
is not blank: there is a sender, and of every finding it composes the mail with the subject and the lines
above and no markup, from and to the trimmed addresses that are not blank, in order. Whatever the settings and
the templates are, composing fails as a mail does exactly if every recipient is blank. -/
theorem default_mail_says_facts :
    (∀ settings : MailSettings, settings.subject = defaultSubject → settings.text = defaultText →
      settings.html = "" → (∃ a ∈ settings.recipients, Text.isBlankText a = false) →
      ∃ m, ofSettings settings = .ok m ∧
        ∀ (f : Finding) (started timestamp : Instant), f.IsDated started timestamp →
          m.compose f = .ok {
            sender := (settings.sender.filter fun a => !Text.isBlankText a).map Text.trim
            recipients := filledAddresses settings.recipients
            cc := filledAddresses settings.cc
            bcc := filledAddresses settings.bcc
            replyTo := filledAddresses settings.replyTo
            subject := some f.mailSubject
            text := some (String.join ((f.mailLines started timestamp).map (· ++ "\n")))
            html := none }) ∧
    ∀ (m : MailSender) (f : Finding), (∃ reason, m.compose f = .error (.error (.mail reason))) ↔
      ∀ a ∈ m.settings.recipients, Text.isBlankText a = true := by
  refine ⟨?_, compose_eq_mail_error_iff⟩
  intro settings hsubject htext hhtml hrecipient
  let m : MailSender := ⟨settings, some ⟨subjectSnippets.map Snippet.part⟩, some ⟨textSnippets.map Snippet.part⟩, none⟩
  have hmarkup : compileTemplate "" = .ok none := rfl
  refine ⟨m, ?_, ?_⟩
  · rw [ofSettings, hsubject, htext, hhtml]
    simp only [compileTemplate_defaultSubject, compileTemplate_defaultText, hmarkup]
    rfl
  · intro f started timestamp hdated
    have hsome : (addresses settings.recipients).isEmpty = false := by
      rw [List.isEmpty_eq_false_iff, Ne, addresses_eq_nil_iff, List.all_eq_true]
      intro hall
      obtain ⟨a, ha, hblank⟩ := hrecipient
      rw [hall a ha] at hblank
      cases hblank
    have hsender : (settings.sender.map Text.trim).filter (fun a => !a.isEmpty) =
        (settings.sender.filter fun a => !Text.isBlankText a).map Text.trim := by
      cases settings.sender with
      | none => rfl
      | some a => simp [Option.filter, trim_isEmpty]
    have hmarkup : fill f.mailValues none = .ok none := rfl
    rw [addresses_eq] at hsome
    simp only [compose, m, addresses_eq, hsome, hsender, f.fill_subjectSnippets, Finding.fill_textSnippets hdated,
      hmarkup]
    rfl

/-- A path that looks like a tag is put in as it is, and an address of blanks gets no mail. -/
theorem default_mail_says_facts_tag :
    let f : Finding := ⟨0, .ok, "", 0, 3, "/\x7b\x7b\x7bstatus\x7d\x7d\x7d", some 4, .string, none⟩
    (∃ m mail, ofSettings { recipients := [" ", " joe "] } = .ok m ∧ m.compose f = .ok mail ∧
      mail.recipients = ["joe"] ∧ mail.cc = [] ∧ mail.html = none ∧
      mail.subject = some "Scan result: OK for /\x7b\x7b\x7bstatus\x7d\x7d\x7d 4") ∧
    ∃ reason, (⟨{ recipients := [" "] }, none, none, none⟩ : MailSender).compose f = .error (.error (.mail reason)) := by
  intro f
  obtain ⟨hmail, hnone⟩ := default_mail_says_facts
  have hrecipient : ∃ a ∈ [" ", " joe "], Text.isBlankText a = false := ⟨" joe ", by simp, by decide⟩
  obtain ⟨m, hm, hcompose⟩ := hmail { recipients := [" ", " joe "] } rfl rfl rfl hrecipient
  have hdated : f.IsDated .epoch .epoch := ⟨rfl, rfl⟩
  refine ⟨⟨m, _, hm, hcompose f .epoch .epoch hdated, by decide, rfl, rfl, ?_⟩, ?_⟩
  · exact congrArg some (by decide +kernel)
  · exact (hnone _ f).mpr (by decide)

end MailSender

end Sentinel
