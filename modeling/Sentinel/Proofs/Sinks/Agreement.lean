import Sentinel.Proofs.Json.Facts
import Sentinel.Proofs.Sinks.Gates
import Sentinel.Proofs.Streaming.Findings
import Sentinel.Proofs.Streaming.Hearing
/-!
# Sinks that agree

Streams, buses, records and mails are told of a result in different forms, and each form is made by itself:
a JSON text, a map of properties, a record and the values of a mail. All of them say the same.

1. `run_records_cases`: what a persister does to the records.
2. `sinks_agree`: the forms side by side.
-/

namespace Sentinel

namespace Handover

/-- A persister that takes a result files one record of it, or it fails and files none. -/
theorem run_records_cases {settings : PersisterSettings} {v : Verdict} {s : Sinks} {path : String}
    (h : v.result.callsFor settings.evenWhenOk = true)
    (hpath : path = Record.path settings.root (s.stamps s.stamped) v.subject.propertyType) :
    ((run ⟨.records settings, v⟩ s).1 = .ok () ∧ s.store.get? path = none ∧
      ∀ q, (run ⟨.records settings, v⟩ s).2.store.get? q =
        if q = path then some (PersisterSettings.recordOf v.finding) else s.store.get? q) ∨
    ((run ⟨.records settings, v⟩ s).1 ≠ .ok () ∧ (run ⟨.records settings, v⟩ s).2.store = s.store) := by
  have hcreated := s.store.create_outcome (Record.folder settings.root (s.stamps s.stamped).time)
    (Record.name v.subject.propertyType (s.stamps s.stamped).id) (PersisterSettings.recordOf v.finding)
  rw [Record.child_folder, ← hpath] at hcreated
  rcases hcreated with ⟨⟨reason, hfiled⟩, -⟩ | ⟨⟨-, -, hfree⟩, hfiled⟩
  · rw [run_records_of_error h hfiled]
    exact .inr ⟨nofun, rfl⟩
  · rw [run_records_of_ok h hfiled]
    exact .inl ⟨rfl, hfree, fun q => KeyMap.get?_insert _ _ _ q⟩

end Handover

/-- All that is told of a result says the same. A broadcaster sends the JSON text of the finding, which is
read as a map that has its type and else its properties, and every client hears it. A publisher that takes
the result has these properties stand last on the bus, on the topic for the type. A persister that takes it
files one record, which has the kind of record and else these properties, or it fails and files none; with
a store that works, below a root of segments and at a path that is free, it does not fail. A mail spells
every property out under its name; it has an index and a user exactly if the properties have them, and its
flags say so. -/
theorem sinks_agree {r : ScanResult} {s : Subject} (hsize : r.size < UInt64.size)
    (hindex : ∀ i ∈ s.index, i < UInt64.size) :
    let json := (Finding.ofResult r s).toJson.compact
    let properties := (Finding.ofResult r s).properties
    let mail := (Finding.ofResult r s).mailValues
    (∃ m : Attributes, Json.parse? json = some (.ofAttributes m) ∧
      m.get? "propertyType" = some (.string s.propertyType.canonicalName) ∧
      m.erase "propertyType" = properties) ∧
    (∀ (id : RegistryId) (sinks : Sinks),
      let told : StreamEvent := ⟨"contentscan/property/result", json⟩
      let ran := ((broadcaster id).handle r s).run.run sinks
      ran = (.ok (), sinks.setLive id ((sinks.live id).broadcast told).2) ∧
      (id < sinks.registries.length → Live.Hears [told] (sinks.live id) (ran.2.live id))) ∧
    (∀ (p : PublisherSettings) (bus : BusId) (sinks : Sinks),
      let posted : BusEvent := ⟨"contentscan/result/property/" ++ s.propertyType.canonicalName, properties⟩
      ((p.handler bus).handle r s).run.run sinks =
        (.ok (), if r.callsFor p.evenWhenOk then
          { sinks with buses := sinks.buses.modify bus fun b => { b with posted := b.posted ++ [posted] } }
          else sinks)) ∧
    (∀ (p : PersisterSettings) (sinks : Sinks),
      let path := Record.path p.root (sinks.stamps sinks.stamped) s.propertyType
      let ran := (p.handler.handle r s).run.run sinks
      ((r.callsFor p.evenWhenOk = true ∧ ran.1 = .ok () ∧ sinks.store.get? path = none ∧
          ∃ record, (∀ q, ran.2.store.get? q = if q = path then some record else sinks.store.get? q) ∧
            record.get? "resourceType" = some (.string "contentscan/property/result") ∧
            record.erase "resourceType" = properties) ∨
        ((r.callsFor p.evenWhenOk = false ∨ ran.1 ≠ .ok ()) ∧ ran.2.store = sinks.store)) ∧
      (r.callsFor p.evenWhenOk = true → sinks.store.failing = false → Record.IsRoot p.root →
        sinks.store.get? path = none → ran.1 = .ok ())) ∧
    (∀ name j, properties.get? name = some j → mail.get? name = some (.text j.spelled)) ∧
    (mail.contains "index" = properties.contains "index" ∧
      mail.get? "hasIndex" = some (.flag (properties.contains "index"))) ∧
    mail.contains "userId" = properties.contains "userId" ∧
      mail.get? "hasUserId" = some (.flag (properties.contains "userId")) := by
  intro json properties mail
  obtain ⟨hindex₁, hindex₂⟩ := (Finding.ofResult r s).contains_index
  obtain ⟨huser₁, huser₂⟩ := (Finding.ofResult r s).contains_userId
  obtain ⟨hflag₁, hflag₂⟩ := (Finding.ofResult r s).get?_flags
  refine ⟨?_, ?_, ?_, ?_, ?_, ?_, ?_⟩
  · refine ⟨_, Finding.json_parse?_toJson (Finding.fitsWords_ofResult hsize hindex), ?_, ?_⟩
    · exact Finding.get?_propertyType _
    · exact Finding.erase_ofList_members _
  · intro id sinks told ran
    have hran : ran = (.ok (), sinks.setLive id ((sinks.live id).step (.broadcast told))) :=
      sinks.handle_broadcaster id r s
    refine ⟨hran, fun hid => ?_⟩
    rw [hran, Sinks.live_setLive hid]
    exact Live.hears_foldl _ [told]
  · intro p bus sinks posted
    cases hcalls : r.callsFor p.evenWhenOk with
    | true => exact Handover.run_bus (v := ⟨r, s⟩) hcalls
    | false => exact Handover.run_of_not_takes (v := ⟨r, s⟩) (o := .bus p bus) hcalls
  · intro p sinks path ran
    constructor
    · cases hcalls : r.callsFor p.evenWhenOk with
      | false =>
        have hran : ran = (.ok (), sinks) := Handover.run_of_not_takes (v := ⟨r, s⟩) (o := .records p) hcalls
        rw [hran]
        exact .inr ⟨.inl rfl, rfl⟩
      | true =>
        rcases Handover.run_records_cases (v := ⟨r, s⟩) (s := sinks) hcalls rfl with
          ⟨hok, hfree, hget⟩ | ⟨hfailed, hstore⟩
        · refine .inl ⟨rfl, hok, hfree, _, hget, ?_, ?_⟩
          · exact (KeyMap.get?_insert _ _ _ _).trans (if_pos rfl)
          · exact Finding.erase_recordOf _
        · exact .inr ⟨.inr hfailed, hstore⟩
    · intro hcalls hworks hroot hfree
      exact congrArg Prod.fst (PersisterSettings.handle_of_isRoot hcalls hworks hroot rfl hfree)
  · intro name j hj
    exact Finding.get?_mailValues_of_properties hj
  · exact ⟨hindex₂.trans hindex₁.symm, hflag₁.trans (congrArg _ (congrArg _ hindex₁.symm))⟩
  · exact ⟨huser₂.trans huser₁.symm, hflag₂.trans (congrArg _ (congrArg _ huser₁.symm))⟩

/-- A result with the greatest numbers and a user with markup in the name, about the last of very many
values. It is told to a bus, to a store without records and to a client with a recorder. -/
theorem sinks_agree_farthest :
    let r : ScanResult := ⟨.infected, "a\"\n", ⟨-8334601228800000, by decide⟩, ⟨8210266876799999, by decide⟩,
      18446744073709551615⟩
    let s : Subject := ⟨"/\u2028", some 18446744073709551615, .uri, some "<b>"⟩
    let sinks : Sinks := { Pipeline.noSinks with
      buses := [⟨4, []⟩]
      registries := [⟨[⟨0, 0, [], .opened⟩], 0⟩]
      connections := ⟨[.recorder {}], 1, []⟩ }
    let json := (Finding.ofResult r s).toJson.compact
    let properties := (Finding.ofResult r s).properties
    (∃ m : Attributes, Json.parse? json = some (.ofAttributes m) ∧ m.erase "propertyType" = properties) ∧
    ((((broadcaster 0).handle r s).run.run sinks).2.connections.get 0).frames =
      ["event: contentscan/property/result\ndata: " ++ json ++ "\n\n"] ∧
    (((PublisherSettings.handler {} 0).handle r s).run.run sinks).2.buses =
      [⟨4, [⟨"contentscan/result/property/URI", properties⟩]⟩] ∧
    (∃ record, (((PersisterSettings.handler {}).handle r s).run.run sinks).2.store.get?
        (Record.path "/var/contentscan/results" ⟨.epoch, ⟨0⟩⟩ .uri) = some record ∧
      record.erase "resourceType" = properties) ∧
    (Finding.ofResult r s).mailValues.get? "index" = some (.text "18446744073709551615") ∧
    (Finding.ofResult r s).mailValues.get? "userId" = some (.text "<b>") := by
  intro r s sinks json properties
  have hindex : ∀ i ∈ s.index, i < UInt64.size := by
    rintro i ⟨⟩
    decide
  obtain ⟨⟨m, hm, -, herase⟩, htold, hposted, hfiled, hmail, -⟩ := sinks_agree (r := r) (by decide) hindex
  have hplace : properties.get? "index" = some (.ofNat 18446744073709551615) :=
    Finding.get?_properties.mpr (Finding.mem_facts.mpr (by simp [Finding.ofResult, s]))
  have huser : properties.get? "userId" = some (.string "<b>") :=
    Finding.get?_properties.mpr (Finding.mem_facts.mpr (by simp [Finding.ofResult, s]))
  have hspelled : (Json.ofNat 18446744073709551615).spelled = "18446744073709551615" := by decide +kernel
  refine ⟨⟨m, hm, herase⟩, ?_, ?_, ?_, hspelled ▸ hmail "index" _ hplace, hmail "userId" _ huser⟩
  · have hsound : (sinks.live 0).IsSound := ⟨rfl, by decide, by decide, by decide⟩
    obtain ⟨-, hheard⟩ := (htold 0 sinks).2 Nat.one_pos
    obtain ⟨given, rest, hears⟩ := hheard ⟨0, 0, [], .opened⟩ List.mem_cons_self (hsound.alone 0)
    have hgiven := hears.given_eq ⟨⟨rfl, rfl⟩, rfl⟩ (List.cons_ne_nil _ _)
    exact hears.frames.trans (by rw [hgiven]; rfl)
  · rw [hposted {} 0 sinks]
    rfl
  · have hroot : Record.IsRoot ({} : PersisterSettings).root :=
      ⟨["var".toList, "contentscan".toList, "results".toList], 0, by decide, rfl⟩
    obtain ⟨hcases, hworks⟩ := hfiled {} sinks
    have hok := hworks rfl rfl hroot rfl
    rcases hcases with ⟨-, -, -, record, hget, -, hrecord⟩ | ⟨hclosed | hfailed, -⟩
    · exact ⟨record, (hget _).trans (if_pos rfl), hrecord⟩
    · cases hclosed
    · exact absurd hok hfailed

end Sentinel
