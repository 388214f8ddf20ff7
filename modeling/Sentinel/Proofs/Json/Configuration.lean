import Sentinel.Configuration
import Sentinel.Proofs.Json.Omission
/-!
# Configurations that are read back

A configuration is read from the JSON text that is written of it. Members may be left out of this text,
whichever they are: of the configuration, of the settings in it, and of those in its lists. What is left
out takes its default, and all else is read as it was written.

1. `without`: each kind of settings with the defaults of what is left out.
2. `reads_without`: what each kind of settings is read as.
3. `parse_without`: a whole configuration.
-/

namespace Sentinel

variable {o : Omission}

/-- A whole number that a signed word can hold. -/
def IsInt64 (i : Int) : Prop := Int64.minValue.toInt ≤ i ∧ i ≤ Int64.maxValue.toInt

/-- A whole number that a signed word of half the size can hold. -/
def IsInt32 (i : Int) : Prop := Int32.minValue.toInt ≤ i ∧ i ≤ Int32.maxValue.toInt

instance (i : Int) : Decidable (IsInt64 i) := inferInstanceAs (Decidable (_ ∧ _))

instance (i : Int) : Decidable (IsInt32 i) := inferInstanceAs (Decidable (_ ∧ _))

theorem Reads.int64 {i : Int} (h : IsInt64 i) : Reads Document.int64? (.ofInt i) i :=
  .int (by decide) (by decide) h

theorem Reads.int32 {i : Int} (h : IsInt32 i) : Reads Document.int32? (.ofInt i) i :=
  .int (by decide) (by decide) h

namespace TreeDigSettings

/-- The limits are signed words, that of the depth half a one. -/
structure FitsWords (s : TreeDigSettings) : Prop where
  maxLength : IsInt64 s.maxLength
  maxDepth : IsInt32 s.maxDepth

/-- The settings with the defaults of what is left out. -/
def without (o : Omission) (s : TreeDigSettings) : TreeDigSettings where
  pathPattern := o.choose "property_path_pattern" "^/.*$" s.pathPattern
  propertyTypes := o.choose "property_types" [.binary] s.propertyTypes
  maxLength := o.choose "property_length_max" (-1) s.maxLength
  maxDepth := o.choose "node_depth_max" (-1) s.maxDepth

theorem reads_propertyTypes (ts : List PropertyType) (o : Omission) :
    Reads (Document.list? PropertyType.ofDocument?)
      ((Json.ofTexts (ts.map (·.canonicalName))).without o) ts := by
  rw [Json.without_ofTexts, Json.ofTexts, List.map_map]
  apply Reads.list
  induction ts with
  | nil => exact .nil
  | cons t ts ih => exact .cons (.propertyType t) ih

theorem reads_without {s : TreeDigSettings} (h : s.FitsWords) (o : Omission) :
    Reads ofDocument? (s.toJson.without o) (s.without o) := by
  have hpattern := Reads.text s.pathPattern
  have htypes := reads_propertyTypes s.propertyTypes (o.within "property_types")
  have hlength := Reads.int64 h.maxLength
  have hdepth := Reads.int32 h.maxDepth
  refine Reads.record
    ["property_path_pattern", "property_types", "property_length_max", "node_depth_max"] rfl (by decide)
    ⟨hpattern.exists_document, htypes.exists_document, hlength.exists_document,
      hdepth.exists_document⟩ ?_
  rintro d f hd ⟨gpattern, gtypes, glength, gdepth⟩
  rw [ofDocument?, hd]
  simp only [Option.bind_eq_bind, Option.bind_some]
  rw [gpattern.withDefault hpattern, gtypes.withDefault htypes, glength.withDefault hlength,
    gdepth.withDefault hdepth]
  rfl

end TreeDigSettings

namespace ChangeDigSettings

/-- The limit is a signed word, and the numbers of workers and of places are words. -/
structure FitsWords (s : ChangeDigSettings) : Prop where
  maxLength : IsInt64 s.maxLength
  workers : s.workers < UInt64.size
  capacity : s.capacity < UInt64.size

def without (o : Omission) (s : ChangeDigSettings) : ChangeDigSettings where
  propertyType := o.choose "property_type" .binary s.propertyType
  pathPattern := o.choose "property_path_pattern" "^/.*$" s.pathPattern
  maxLength := o.choose "property_length_max" (-1) s.maxLength
  workers := o.choose "workers" 4 s.workers
  capacity := o.choose "queue_capacity" 256 s.capacity

theorem reads_without {s : ChangeDigSettings} (h : s.FitsWords) (o : Omission) :
    Reads ofDocument? (s.toJson.without o) (s.without o) := by
  have htype := Reads.propertyType s.propertyType
  have hpattern := Reads.text s.pathPattern
  have hlength := Reads.int64 h.maxLength
  have hworkers := Reads.word h.workers
  have hcapacity := Reads.word h.capacity
  refine Reads.record
    ["property_type", "property_path_pattern", "property_length_max", "workers", "queue_capacity"]
    rfl (by decide)
    ⟨htype.exists_document, hpattern.exists_document, hlength.exists_document,
      hworkers.exists_document, hcapacity.exists_document⟩ ?_
  rintro d f hd ⟨gtype, gpattern, glength, gworkers, gcapacity⟩
  rw [ofDocument?, hd]
  simp only [Option.bind_eq_bind, Option.bind_some]
  rw [gtype.withDefault htype, gpattern.withDefault hpattern, glength.withDefault hlength,
    gworkers.withDefault hworkers, gcapacity.withDefault hcapacity]
  rfl

end ChangeDigSettings

namespace PublisherSettings

def without (o : Omission) (s : PublisherSettings) : PublisherSettings where
  evenWhenOk := o.choose "send_even_when_ok" false s.evenWhenOk

theorem reads_without (s : PublisherSettings) (o : Omission) :
    Reads ofDocument? (s.toJson.without o) (s.without o) := by
  have heven := Reads.bool s.evenWhenOk
  refine Reads.record ["send_even_when_ok"] rfl (by decide) heven.exists_document ?_
  intro d f hd geven
  rw [ofDocument?, hd]
  simp only [Option.bind_eq_bind, Option.bind_some]
  rw [Gives.withDefault geven heven]
  rfl

end PublisherSettings

namespace MailSettings

def without (o : Omission) (s : MailSettings) : MailSettings where
  sender := o.choose "from" none s.sender
  recipients := o.choose "to" [] s.recipients
  cc := o.choose "cc" [] s.cc
  bcc := o.choose "bcc" [] s.bcc
  replyTo := o.choose "reply_to" [] s.replyTo
  subject := o.choose "subject" defaultSubject s.subject
  text := o.choose "text" defaultText s.text
  html := o.choose "html" "" s.html
  evenWhenOk := o.choose "send_even_when_ok" false s.evenWhenOk

theorem reads_sender (sender : Option String) (o : Omission) :
    Reads (Document.nullable? Document.text?) ((Json.ofText? sender).without o) sender := by
  cases sender with
  | none => exact .null
  | some s => exact .given (.text s) nofun

theorem reads_texts (ts : List String) (o : Omission) :
    Reads (Document.list? Document.text?) ((Json.ofTexts ts).without o) ts := by
  rw [Json.without_ofTexts]
  exact .texts ts

theorem reads_without (s : MailSettings) (o : Omission) :
    Reads ofDocument? (s.toJson.without o) (s.without o) := by
  have hfrom := reads_sender s.sender (o.within "from")
  have hto := reads_texts s.recipients (o.within "to")
  have hcc := reads_texts s.cc (o.within "cc")
  have hbcc := reads_texts s.bcc (o.within "bcc")
  have hreply := reads_texts s.replyTo (o.within "reply_to")
  have hsubject := Reads.text s.subject
  have htext := Reads.text s.text
  have hhtml := Reads.text s.html
  have heven := Reads.bool s.evenWhenOk
  refine Reads.record
    ["from", "to", "cc", "bcc", "reply_to", "subject", "text", "html", "send_even_when_ok"]
    rfl (by decide)
    ⟨hfrom.exists_document, hto.exists_document, hcc.exists_document, hbcc.exists_document,
      hreply.exists_document, hsubject.exists_document, htext.exists_document, hhtml.exists_document,
      heven.exists_document⟩ ?_
  rintro d f hd ⟨gfrom, gto, gcc, gbcc, greply, gsubject, gtext, ghtml, geven⟩
  rw [ofDocument?, hd]
  simp only [Option.bind_eq_bind, Option.bind_some]
  rw [gfrom.withDefault hfrom, gto.withDefault hto, gcc.withDefault hcc, gbcc.withDefault hbcc,
    greply.withDefault hreply, gsubject.withDefault hsubject, gtext.withDefault htext,
    ghtml.withDefault hhtml, geven.withDefault heven]
  rfl

end MailSettings

namespace PersisterSettings

def without (o : Omission) (s : PersisterSettings) : PersisterSettings where
  root := o.choose "result_root" "/var/contentscan/results" s.root
  evenWhenOk := o.choose "send_even_when_ok" false s.evenWhenOk

theorem reads_without (s : PersisterSettings) (o : Omission) :
    Reads ofDocument? (s.toJson.without o) (s.without o) := by
  have hroot := Reads.text s.root
  have heven := Reads.bool s.evenWhenOk
  refine Reads.record ["result_root", "send_even_when_ok"] rfl (by decide)
    ⟨hroot.exists_document, heven.exists_document⟩ ?_
  rintro d f hd ⟨groot, geven⟩
  rw [ofDocument?, hd]
  simp only [Option.bind_eq_bind, Option.bind_some]
  rw [groot.withDefault hroot, geven.withDefault heven]
  rfl

end PersisterSettings

namespace StreamingSettings

def without (o : Omission) (s : StreamingSettings) : StreamingSettings where
  enabled := o.choose "enabled" true s.enabled
  capacity := o.choose "channel_capacity" 64 s.capacity

theorem reads_without {s : StreamingSettings} (h : s.capacity < UInt64.size) (o : Omission) :
    Reads ofDocument? (s.toJson.without o) (s.without o) := by
  have henabled := Reads.bool s.enabled
  have hcapacity := Reads.word h
  refine Reads.record ["enabled", "channel_capacity"] rfl (by decide)
    ⟨henabled.exists_document, hcapacity.exists_document⟩ ?_
  rintro d f hd ⟨genabled, gcapacity⟩
  rw [ofDocument?, hd]
  simp only [Option.bind_eq_bind, Option.bind_some]
  rw [genabled.withDefault henabled, gcapacity.withDefault hcapacity]
  rfl

end StreamingSettings

namespace Configuration

/-- The numbers of a configuration are words, signed or not. -/
structure FitsWords (c : Configuration) : Prop where
  treeDig : c.treeDig.FitsWords
  changeDigs : ∀ s ∈ c.changeDigs, s.FitsWords
  streaming : c.streaming.capacity < UInt64.size

/-- The configuration with the defaults of what is left out, in the settings of each part as well. -/
def without (o : Omission) (c : Configuration) : Configuration where
  treeDig := o.choose "tree_digger" ⟨"^/.*$", [.binary], -1, -1⟩ (c.treeDig.without (o.within "tree_digger"))
  changeDigs := o.choose "change_diggers" []
    (c.changeDigs.mapIdx fun i s => s.without ((o.within "change_diggers").withinItem i))
  publisher := o.choose "event_publisher" (some ⟨false⟩)
    (c.publisher.map fun s => s.without (o.within "event_publisher"))
  mails := o.choose "mail" [] (c.mails.mapIdx fun i s => s.without ((o.within "mail").withinItem i))
  persisters := o.choose "persisters" []
    (c.persisters.mapIdx fun i s => s.without ((o.within "persisters").withinItem i))
  streaming := o.choose "sse" ⟨true, 64⟩ (c.streaming.without (o.within "sse"))

theorem without_nothing (c : Configuration) : c.without .nothing = c := by
  have hlist {α : Type} (xs : List α) : (xs.mapIdx fun _ x => x) = xs := by
    induction xs with
    | nil => rfl
    | cons x xs ih => rw [List.mapIdx_cons, ih]
  have hpublisher : (c.publisher.map fun s => s.without .nothing) = c.publisher := by
    cases c.publisher <;> rfl
  calc c.without .nothing
      = { c with
          changeDigs := c.changeDigs.mapIdx fun _ s => s
          publisher := c.publisher.map fun s => s.without .nothing
          mails := c.mails.mapIdx fun _ s => s
          persisters := c.persisters.mapIdx fun _ s => s } := rfl
    _ = c := by rw [hlist, hlist, hlist, hpublisher]

theorem reads_publisher (publisher : Option PublisherSettings) (o : Omission) :
    Reads (Document.nullable? PublisherSettings.ofDocument?)
      (((publisher.map PublisherSettings.toJson).getD Json.null).without o)
      (publisher.map fun s => s.without o) := by
  cases publisher with
  | none => exact .null
  | some s => exact .given (s.reads_without o) nofun

theorem reads_without {c : Configuration} (h : c.FitsWords) (o : Omission) :
    Reads ofDocument? (c.toJson.without o) (c.without o) := by
  have htree := TreeDigSettings.reads_without h.treeDig (o.within "tree_digger")
  have hchanges := Reads.items c.changeDigs fun i s hs =>
    ChangeDigSettings.reads_without (h.changeDigs s hs) ((o.within "change_diggers").withinItem i)
  have hpublisher := reads_publisher c.publisher (o.within "event_publisher")
  have hmails := Reads.items c.mails fun i s _ =>
    MailSettings.reads_without s ((o.within "mail").withinItem i)
  have hpersisters := Reads.items c.persisters fun i s _ =>
    PersisterSettings.reads_without s ((o.within "persisters").withinItem i)
  have hstreaming := StreamingSettings.reads_without h.streaming (o.within "sse")
  refine Reads.record
    ["tree_digger", "change_diggers", "event_publisher", "mail", "persisters", "sse"] rfl (by decide)
    ⟨htree.exists_document, hchanges.exists_document, hpublisher.exists_document,
      hmails.exists_document, hpersisters.exists_document, hstreaming.exists_document⟩ ?_
  rintro d f hd ⟨gtree, gchanges, gpublisher, gmails, gpersisters, gstreaming⟩
  rw [ofDocument?, hd]
  simp only [Option.bind_eq_bind, Option.bind_some]
  rw [gtree.withDefault htree, gchanges.withDefault hchanges, gpublisher.withDefault hpublisher,
    gmails.withDefault hmails, gpersisters.withDefault hpersisters, gstreaming.withDefault hstreaming]
  rfl

/-- A configuration whose numbers fit is read from the text that is written of it. Whatever members are
left out of the text, of the configuration, of the settings in it or of those in its lists, it is read as
the configuration with the defaults of what is left out: where nothing is said of a publisher there is
one, and there is none where it is said to be null. -/
theorem parse_without {c : Configuration} (h : c.FitsWords) :
    parse c.toJson.compact = .ok c ∧
      ∀ o : Omission, parse (c.toJson.without o).compact = .ok (c.without o) ∧
        (o.drops "event_publisher" = true → (c.without o).publisher = some { evenWhenOk := false }) ∧
        (o.drops "event_publisher" = false → c.publisher = none →
          ("event_publisher", .null) ∈ (c.toJson.without o).members ∧
            (c.without o).publisher = none) := by
  have hparse (o : Omission) : parse (c.toJson.without o).compact = .ok (c.without o) := by
    rw [parse, (reads_without h o).bind_parse?]
  refine ⟨?_, fun o => ⟨hparse o, ?_, ?_⟩⟩
  · have hwhole := hparse .nothing
    rwa [Json.without_nothing, without_nothing] at hwhole
  · intro hdrop
    exact if_pos hdrop
  · intro hkeep hnone
    constructor
    · rw [toJson, Json.without, Json.members, Json.membersWithout_eq, hnone]
      apply List.mem_map.mpr
      exact ⟨("event_publisher", .null), by simp [hkeep], rfl⟩
    · simp [without, Omission.choose, hkeep, hnone]

/-- A configuration with numbers at the ends of their ranges, and without a publisher. -/
def extreme : Configuration where
  treeDig := ⟨"^/\u2028\"\n.*$", [], -9223372036854775808, 2147483647⟩
  changeDigs := [⟨.uri, "", 9223372036854775807, 0, 18446744073709551615⟩, { workers := 7, capacity := 9 }]
  publisher := none
  mails := [{ recipients := ["a@b", ""], subject := "", evenWhenOk := true }]
  persisters := [⟨"", true⟩]
  streaming := ⟨false, 18446744073709551615⟩

/-- Members on every level: one of the configuration, some of settings in it and some of settings in its
lists. -/
def gaps : Omission := fun steps => steps ∈
  [[.member "event_publisher"], [.member "tree_digger", .member "node_depth_max"],
    [.member "change_diggers", .item 1, .member "workers"], [.member "mail", .item 0, .member "subject"],
    [.member "mail", .item 0, .member "to"], [.member "persisters", .item 0, .member "result_root"]]

/-- The text as a whole stands for this configuration, and with gaps for one with the defaults in them. -/
theorem parse_without_gaps :
    parse extreme.toJson.compact = .ok extreme ∧
      parse (extreme.toJson.without gaps).compact = .ok { extreme with
        treeDig.maxDepth := -1
        changeDigs := [⟨.uri, "", 9223372036854775807, 0, 18446744073709551615⟩, { capacity := 9 }]
        publisher := some { evenWhenOk := false }
        mails := [{ recipients := [], subject := defaultSubject, evenWhenOk := true }]
        persisters := [⟨"/var/contentscan/results", true⟩] } := by
  have hfits : extreme.FitsWords := by
    refine ⟨⟨by decide, by decide⟩, ?_, by decide⟩
    intro s hs
    rcases List.mem_pair.mp hs with rfl | rfl
    · exact ⟨by decide, by decide, by decide⟩
    · exact ⟨by decide, by decide, by decide⟩
  obtain ⟨hwhole, hgaps⟩ := parse_without hfits
  exact ⟨hwhole, (hgaps gaps).1⟩

end Configuration

end Sentinel
