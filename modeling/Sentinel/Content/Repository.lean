import Sentinel.Content.Node
import Sentinel.KeyMap
/-!
# Repositories

A tree of nodes with typed properties, kept by path. Nodes are added under normalized paths, with
all their ancestors; everything else looks a path up as it is written. Access to chosen paths can be
made to fail, and so can opening a session.

Correspondence (operation of the component ↔ definition):
  `MemoryRepository.add_node`, `Tree.ensure_node` ↔ `addNode`
  `set_property`, `remove_property`               ↔ `setProperty`, `removeProperty`
  `fail_on`, `set_available`                      ↔ `failOn`, `setAvailable`
  `Tree.check_access`, `Tree.stored`, `describe`  ↔ `checkAccess`, `stored?`, `StoredProperty.describe`
  `MemoryNode.properties`, `MemoryNode.children`  ↔ `propertiesAt`, `childPaths`; unfolded: `view`
  `service_session`                               ↔ `Session.openOn`
  `MemorySession.node`, `property`, `value`       ↔ `Session.node?`, `Session.property?`, `Session.value?`
-/

namespace Sentinel

structure StoredProperty where
  propertyType : PropertyType
  values : List ContentValue
  multiple : Bool
deriving DecidableEq, Repr

/-- The description of a stored property; an only value that is missing counts as empty. -/
def StoredProperty.describe (s : StoredProperty) (path : String) : ContentProperty where
  path := path
  propertyType := s.propertyType
  lengths :=
    if s.multiple then .multiple (s.values.map (·.length))
    else .single ((s.values.head?.map (·.length)).getD 0)

/-- A repository: the properties of each node by name, the paths whose access fails, and whether
sessions can be opened. -/
structure Repository where
  nodes : KeyMap (KeyMap StoredProperty)
  failing : List String
  available : Bool

namespace Repository

/-- A repository with a root and nothing else. -/
def empty : Repository where
  nodes := KeyMap.empty.insert "/" KeyMap.empty
  failing := []
  available := true

instance : Inhabited Repository := ⟨empty⟩

/-- Adds a node without properties unless it exists. -/
def addOne (r : Repository) (path : String) : Repository :=
  if r.nodes.contains path then r else { r with nodes := r.nodes.insert path KeyMap.empty }

/-- Adds the node that a path leads to, with all its ancestors. -/
def addNode (r : Repository) (path : String) : Repository :=
  (Path.ancestry path).foldl addOne r

/-- Puts a property at its path, and its node if there is none. A path without a name is ignored,
and so is one whose node is not normalized. -/
def setProperty (r : Repository) (path : String) (s : StoredProperty) : Repository :=
  match Path.split? path with
  | none => r
  | some (node, name) =>
    let r := r.addNode node
    match r.nodes.get? node with
    | none => r
    | some properties => { r with nodes := r.nodes.insert node (properties.insert name s) }

/-- Removes a property, and says whether there was one. -/
def removeProperty (r : Repository) (path : String) : Bool × Repository :=
  match Path.split? path with
  | none => (false, r)
  | some (node, name) =>
    match r.nodes.get? node with
    | none => (false, r)
    | some properties =>
      (properties.contains name, { r with nodes := r.nodes.insert node (properties.erase name) })

/-- Makes every access to a path fail. -/
def failOn (r : Repository) (path : String) : Repository := { r with failing := path :: r.failing }

def setAvailable (r : Repository) (available : Bool) : Repository := { r with available }

/-- Refuses access to the paths whose access fails. -/
def checkAccess (r : Repository) (path : String) : Except RepositoryError Unit :=
  if r.failing.contains path then .error (.accessFailed path "access denied") else .ok ()

def stored? (r : Repository) (path : String) : Except RepositoryError StoredProperty := do
  r.checkAccess path
  match Path.split? path with
  | none => .error (.notFound path)
  | some (node, name) =>
    r.checkAccess node
    match (r.nodes.get? node).bind (·.get? name) with
    | none => .error (.notFound path)
    | some s => .ok s

/-- The properties of the node at a path, in the order of their names. -/
def propertiesAt (r : Repository) (path : String) : Except RepositoryError (List ContentProperty) := do
  r.checkAccess path
  match r.nodes.get? path with
  | none => .error (.notFound path)
  | some properties => .ok (properties.entries.map fun (name, s) => s.describe (Path.child path name))

/-- The paths of the nodes right below a path, in order. -/
def childPaths (r : Repository) (path : String) : List String :=
  r.nodes.keys.filter fun p => Path.parent? p = some path

def longest (r : Repository) : Nat := (r.nodes.keys.map String.length).foldr max 0

theorem length_lt_of_parent? {p q : String} (h : Path.parent? p = some q) : q.length < p.length := by
  simp only [Path.parent?] at h
  split at h
  · simp at h
  · simp only [Path.split?] at h
    split at h
    · simp at h
    · rename_i parent name hs
      rw [Text.splitLast_eq_some_iff] at hs
      split at h
      · simp at h
      · rename_i hn
        simp only [Option.map_some, Option.some.injEq] at h
        have hp : p.length = parent.length + (name.length + 1) := by
          rw [← String.length_toList, hs.1]; simp
        have hn : name.length ≠ 0 := by simpa using hn
        split at h
        · subst h
          have : ("/" : String).length = 1 := rfl
          omega
        · subst h
          simp
          omega

theorem length_le_longest {r : Repository} {p : String} (h : p ∈ r.nodes.keys) : p.length ≤ r.longest := by
  simp only [longest]
  generalize r.nodes.keys = ks at h
  induction ks with
  | nil => simp at h
  | cons k ks ih =>
    simp only [List.map_cons, List.foldr_cons]
    rcases List.mem_cons.mp h with rfl | h
    · exact Nat.le_max_left _ _
    · exact Nat.le_trans (ih h) (Nat.le_max_right _ _)

theorem measure_childPaths_lt {r : Repository} {p q : String} (h : q ∈ r.childPaths p) :
    r.longest + 1 - q.length < r.longest + 1 - p.length := by
  simp only [childPaths, List.mem_filter, decide_eq_true_eq] at h
  have h1 := length_lt_of_parent? h.2
  have h2 := length_le_longest h.1
  omega

/-- The node at a path with all that lies below it, seen as lying at a depth. -/
def view (r : Repository) (path : String) (depth : Nat) : ContentNode :=
  .mk path depth (r.propertiesAt path)
    (match r.checkAccess path with
    | .error e => .error e
    | .ok () => .ok ((r.childPaths path).attach.map fun ⟨p, _⟩ => r.view p (depth + 1)))
termination_by r.longest + 1 - path.length
decreasing_by
  rename_i h
  exact measure_childPaths_lt h

def node? (r : Repository) (path : String) : Except RepositoryError ContentNode := do
  r.checkAccess path
  if r.nodes.contains path then .ok (r.view path (Path.depth path)) else .error (.notFound path)

end Repository

/-- Access to the nodes, properties and values of a repository. -/
structure Session where
  repository : Repository

namespace Session

def openOn (r : Repository) : Except RepositoryError Session :=
  if r.available then .ok ⟨r⟩ else .error (.sessionUnavailable "repository is offline")

def node? (s : Session) (path : String) : Except RepositoryError ContentNode := s.repository.node? path

/-- The description of the property at a path. -/
def property? (s : Session) (path : String) : Except RepositoryError ContentProperty := do
  return (← s.repository.stored? path).describe path

/-- One value of the property at a path: the only one, or the one at an index. -/
def value? (s : Session) (path : String) (index : Option Nat) : Except RepositoryError ContentValue := do
  let p ← s.repository.stored? path
  match p.multiple, index with
  | true, some i =>
    match p.values[i]? with
    | some v => .ok v
    | none => .error (.indexOutOfRange path i p.values.length)
  | false, none =>
    match p.values.head? with
    | some v => .ok v
    | none => .error (.notFound path)
  | true, none => .error (.accessFailed path "multi-valued property needs an index")
  | false, some _ => .error (.accessFailed path "single-valued property has no index")

end Session

end Sentinel
