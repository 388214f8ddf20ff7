import Sentinel.Json.Basic
import Sentinel.Record.Path
/-!
# Records in memory

A store in which records are created, each path once, and never changed.

Correspondence (operation of the component ↔ definition):
  `MemoryResultStore.create`, `get` ↔ `MemoryStore.create`, `MemoryStore.get?`
  `set_failing`                     ↔ the field `failing`
-/

namespace Sentinel

/-- The records by path, and whether the store refuses new ones. -/
structure MemoryStore where
  records : KeyMap Attributes
  failing : Bool

namespace MemoryStore

def empty : MemoryStore := ⟨KeyMap.empty, false⟩

/-- Creates a record below a parent; its path is the answer. -/
def create (s : MemoryStore) (parent name : String) (properties : Attributes) :
    Except HandlerError (String × MemoryStore) := do
  let path := Path.child parent name
  Record.checkPath path
  if s.failing then throw (.persist path "store is read-only")
  if s.records.contains path then throw (.persist path "record exists")
  return (path, { s with records := s.records.insert path properties })

def get? (s : MemoryStore) (path : String) : Option Attributes := s.records.get? path

end MemoryStore

end Sentinel
