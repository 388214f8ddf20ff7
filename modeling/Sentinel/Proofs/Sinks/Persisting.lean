import Sentinel.Proofs.Pipeline.Assembly
import Sentinel.Proofs.Record.Creation
/-!
# Below which roots findings are kept

Validation admits every root that begins with a slash. A store that works keeps the findings of a persister
below the roots without empty or relative segments, and refuses every one of them below the others.

1. `handle_of_callsFor`: a persister that takes a result, by what the store answers.
2. `handle_of_isRoot`: with a store that works, below a root of segments, at a path that is free.
3. `persists_below_root`: what a persister of a validated configuration does.
-/

namespace Sentinel

theorem Handler.handle_uniform {σ : Type} (name : String) (act : ScanResult → Subject → Handles σ Unit)
    (r : ScanResult) (subject : Subject) : (Handler.uniform name act).handle r subject = act r subject := by
  obtain ⟨path, index, propertyType, userId⟩ := subject
  cases index <;> rfl

namespace PersisterSettings

variable {p : PersisterSettings} {r : ScanResult} {subject : Subject} {s : Sinks}

/-- A persister that takes a result uses a stamp, and fails where the store does. -/
theorem handle_of_callsFor (hacts : r.callsFor p.evenWhenOk = true) :
    (p.handler.handle r subject).run.run s =
      match s.store.create (Record.folder p.root (s.stamps s.stamped).time)
          (Record.name subject.propertyType (s.stamps s.stamped).id) (recordOf (.ofResult r subject)) with
      | .ok (_, store) => (.ok (), { s with store, stamped := s.stamped + 1 })
      | .error e => (.error (.error e), { s with stamped := s.stamped + 1 }) := by
  have hget : ((get : Handles Sinks Sinks).run.run s : Id _) = pure (.ok s, s) := rfl
  rw [handler, Handler.handle_uniform, if_pos hacts, ExceptT.run_bind, StateT.run_bind, hget, pure_bind]
  dsimp only
  generalize s.store.create (Record.folder p.root (s.stamps s.stamped).time)
    (Record.name subject.propertyType (s.stamps s.stamped).id) (recordOf (.ofResult r subject)) = created
  cases created <;> rfl

theorem handle_of_isRoot {path : String} (hacts : r.callsFor p.evenWhenOk = true)
    (hworks : s.store.failing = false) (hroot : Record.IsRoot p.root)
    (hpath : path = Record.path p.root (s.stamps s.stamped) subject.propertyType)
    (hfresh : s.store.get? path = none) :
    (p.handler.handle r subject).run.run s = (.ok (), { s with
      store := { s.store with records := s.store.records.insert path (recordOf (.ofResult r subject)) }
      stamped := s.stamped + 1 }) := by
  have hchild := Record.child_folder p.root (s.stamps s.stamped) subject.propertyType
  rw [← hpath] at hchild
  have hcheck := Record.checkPath_of_isRoot (s.stamps s.stamped).time subject.propertyType
    (s.stamps s.stamped).id hroot
  have hcreate := MemoryStore.create_of_fresh (recordOf (.ofResult r subject)) hcheck hworks (hchild ▸ hfresh)
  rw [handle_of_callsFor hacts, hcreate, hchild]

/-- A persister of a validated configuration that takes a result, with a store that works and a path that
is not in it yet. Below a root of segments it creates one record, with the properties of the finding and
the kind of record, and changes nothing else; below any other root it fails and creates nothing. -/
theorem persists_below_root [SizeLimit] {c : Configuration} {path : String} (hc : c.validate = .ok ())
    (hp : p ∈ c.persisters) (hacts : r.callsFor p.evenWhenOk = true) (hworks : s.store.failing = false)
    (hpath : path = Record.path p.root (s.stamps s.stamped) subject.propertyType)
    (hfresh : s.store.get? path = none) :
    (Record.IsRoot p.root → ∃ store : MemoryStore,
      (p.handler.handle r subject).run.run s = (.ok (), { s with store, stamped := s.stamped + 1 }) ∧
      store.failing = false ∧
      ∀ q, store.get? q = if q = path then
        some ((Finding.ofResult r subject).properties.insert "resourceType" (.string findingEventKind))
        else s.store.get? q) ∧
    (¬Record.IsRoot p.root →
      (p.handler.handle r subject).run.run s =
        (.error (.error (.persist path "path has an empty or relative segment")),
          { s with stamped := s.stamped + 1 })) := by
  have habsolute := (Configuration.validate_eq_ok_iff.mp hc).persisters p hp
  constructor
  · intro hroot
    exact ⟨_, handle_of_isRoot hacts hworks hroot hpath hfresh, hworks, fun q => KeyMap.get?_insert _ _ _ q⟩
  · intro hroot
    have hchild := Record.child_folder p.root (s.stamps s.stamped) subject.propertyType
    rw [← hpath] at hchild
    have hcheck := Record.checkPath_of_not_isRoot (s.stamps s.stamped).time subject.propertyType
      (s.stamps s.stamped).id habsolute hroot
    rw [handle_of_callsFor hacts, MemoryStore.create_of_refused _ hcheck, hchild]

/-- A root with a slash at its end. -/
def archive : PersisterSettings := { root := "/var/x/" }

/-- A root with an empty segment in it. -/
def abyss : PersisterSettings := { root := "/a//b" }

/-- Both roots are validated. -/
def archives : Configuration where
  persisters := [archive, abyss]

section Unbounded

attribute [local instance] SizeLimit.unbounded

theorem validate_archives : archives.validate = .ok () :=
  Configuration.validate_of_isOk (by decide +kernel)

theorem not_isRoot_abyss : ¬Record.IsRoot abyss.root := by
  rintro ⟨ss, n, hss, hchars⟩
  have htrimmed := Record.trimmed_of_steps hss hchars
  have hpieces := Text.pieces_flatMap fun s hs => (hss s hs).isSegment.2
  rw [← htrimmed] at hpieces
  obtain rfl : [['a'], [], ['b']] = ss := (List.cons.inj hpieces).2
  exact (hss [] (by simp)).isSegment.1 rfl

/-- What was found in a value. -/
def alarm : ScanResult := ⟨.infected, "x", .epoch, .epoch, 1⟩

/-- A value in which something was found. -/
def culprit : Subject := ⟨"/p", none, .binary, none⟩

/-- Below the first root a finding is kept. -/
theorem persists_below_root_archive :
    archives.validate = .ok () ∧ ∃ store : MemoryStore,
      (archive.handler.handle alarm culprit).run.run Pipeline.noSinks =
        (.ok (), { Pipeline.noSinks with store, stamped := 1 }) ∧
      store.get? (Record.path "/var/x/" ⟨.epoch, ⟨0⟩⟩ .binary) =
        some ((Finding.ofResult alarm culprit).properties.insert "resourceType" (.string findingEventKind)) := by
  obtain ⟨hcreated, -⟩ := @persists_below_root archive alarm culprit Pipeline.noSinks _ archives _
    validate_archives List.mem_cons_self rfl rfl rfl rfl
  obtain ⟨store, hrun, -, hget⟩ := hcreated ⟨["var".toList, "x".toList], 1, by decide, rfl⟩
  exact ⟨validate_archives, store, hrun, (hget _).trans (if_pos rfl)⟩

/-- Below the second, which is validated as well, none is. -/
theorem persists_nothing_abyss :
    archives.validate = .ok () ∧ abyss ∈ archives.persisters ∧ alarm.callsFor abyss.evenWhenOk = true ∧
      Pipeline.noSinks.store.failing = false ∧ Pipeline.noSinks.store.records = KeyMap.empty ∧
      (abyss.handler.handle alarm culprit).run.run Pipeline.noSinks =
        (.error (.error (.persist (Record.path "/a//b" ⟨.epoch, ⟨0⟩⟩ .binary)
          "path has an empty or relative segment")), { Pipeline.noSinks with stamped := 1 }) := by
  have hcheck := Record.checkPath_of_not_isRoot .epoch .binary ⟨0⟩ rfl not_isRoot_abyss
  have hchild := Record.child_folder abyss.root ⟨.epoch, ⟨0⟩⟩ .binary
  refine ⟨validate_archives, by decide, rfl, rfl, rfl, ?_⟩
  rw [handle_of_callsFor rfl]
  show (match MemoryStore.create MemoryStore.empty (Record.folder abyss.root .epoch)
      (Record.name .binary ⟨0⟩) _ with
    | .ok (_, store) => _
    | .error e => _) = _
  rw [MemoryStore.create_of_refused _ hcheck, hchild]
  rfl

end Unbounded

end PersisterSettings

end Sentinel
