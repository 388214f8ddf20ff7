import Sentinel.Proofs.Content.Descent
/-!
# Places of properties

A property lies at a place: a node and a name. A path is split into such a place, and what is read at a
path is what lies at its place. What the operations on a repository do is said here of places, for all
places at once; a repository consists of its nodes, of what lies at its places, and of what makes access
to it fail.

1. `propertyAt?_addNode`, `propertyAt?_setProperty`, `propertyAt?_removeProperty`: what lies at a place
   behind an operation.
2. `mem_keys_setProperty`, `mem_keys_removeProperty`: which nodes there are behind it.
3. `mem_ancestry_self_iff`: adding a node adds its path as it is written only where it is normalized.
4. `eq_of_places`: a repository is determined by its nodes and places.
5. `stored?_eq`: what is read at a path lies at its place.
-/

namespace Sentinel

namespace Path

theorem mem_ancestry_self_iff {p : String} : p ∈ ancestry p ↔ IsNormalized p := by
  constructor
  · exact isNormalized_of_mem_ancestry
  · intro hp
    exact mem_ancestry.mpr ⟨segments p, List.prefix_refl _, (ofSegments_segments hp).symm⟩

end Path

namespace Repository

variable {r r' : Repository} {p node name : String} {s : StoredProperty} {place : String × String}

/-- What lies at a place: at a node, under a name. -/
def propertyAt? (r : Repository) (place : String × String) : Option StoredProperty :=
  (r.nodes.get? place.1).bind (·.get? place.2)

theorem addOne_eq (r : Repository) (p : String) : ∃ nodes, r.addOne p = { r with nodes } := by
  rw [addOne]
  split
  · exact ⟨r.nodes, rfl⟩
  · exact ⟨_, rfl⟩

theorem addNode_eq (r : Repository) (p : String) : ∃ nodes, r.addNode p = { r with nodes } := by
  rw [addNode]
  generalize Path.ancestry p = ps
  induction ps generalizing r with
  | nil => exact ⟨r.nodes, rfl⟩
  | cons p ps ih =>
    obtain ⟨nodes, hnodes⟩ := addOne_eq r p
    rw [List.foldl_cons, hnodes]
    exact ih _

@[simp] theorem failing_addNode (r : Repository) (p : String) : (r.addNode p).failing = r.failing := by
  obtain ⟨nodes, h⟩ := addNode_eq r p
  rw [h]

@[simp] theorem available_addNode (r : Repository) (p : String) : (r.addNode p).available = r.available := by
  obtain ⟨nodes, h⟩ := addNode_eq r p
  rw [h]

theorem propertyAt?_addNode (r : Repository) (p : String) (place : String × String) :
    (r.addNode p).propertyAt? place = r.propertyAt? place := by
  rw [propertyAt?, propertyAt?, get?_addNode]
  split
  · cases r.nodes.get? place.1 <;> rfl
  · rfl

theorem propertyAt?_insert (r : Repository) (m : KeyMap StoredProperty) (node : String)
    (place : String × String) :
    propertyAt? { r with nodes := r.nodes.insert node m } place =
      if place.1 = node then m.get? place.2 else r.propertyAt? place := by
  rw [propertyAt?, KeyMap.get?_insert]
  split <;> rfl

theorem setProperty_of_split?_none (hp : Path.split? p = none) (s : StoredProperty) :
    r.setProperty p s = r := by
  rw [setProperty, hp]

/-- Putting a property at its path adds its node, and puts the property there if the node is found as it
is written. -/
theorem setProperty_eq (hp : Path.split? p = some (node, name)) (s : StoredProperty) :
    r.setProperty p s = match (r.addNode node).nodes.get? node with
      | none => r.addNode node
      | some m => { r.addNode node with nodes := (r.addNode node).nodes.insert node (m.insert name s) } := by
  cases hm : (r.addNode node).nodes.get? node <;> simp only [setProperty, hp, hm]

theorem removeProperty_eq (hp : Path.split? p = some (node, name)) :
    r.removeProperty p = match r.nodes.get? node with
      | none => (false, r)
      | some m => (m.contains name, { r with nodes := r.nodes.insert node (m.erase name) }) := by
  cases hm : r.nodes.get? node <;> simp only [removeProperty, hp, hm]

theorem mem_keys_setProperty (hp : Path.split? p = some (node, name)) (s : StoredProperty) (q : String) :
    q ∈ (r.setProperty p s).nodes.keys ↔ q ∈ Path.ancestry node ∨ q ∈ r.nodes.keys := by
  rw [setProperty_eq hp, ← mem_keys_addNode]
  cases hm : (r.addNode node).nodes.get? node with
  | none => exact Iff.rfl
  | some m => exact mem_keys_insert (KeyMap.mem_keys.mpr ⟨m, hm⟩) q

theorem mem_keys_removeProperty (r : Repository) (p q : String) :
    q ∈ (r.removeProperty p).2.nodes.keys ↔ q ∈ r.nodes.keys := by
  cases hp : Path.split? p with
  | none => rw [removeProperty, hp]
  | some place =>
    rw [removeProperty_eq hp]
    cases hm : r.nodes.get? place.1 with
    | none => exact Iff.rfl
    | some m => exact mem_keys_insert (KeyMap.mem_keys.mpr ⟨m, hm⟩) q

theorem failing_setProperty (r : Repository) (p : String) (s : StoredProperty) :
    (r.setProperty p s).failing = r.failing := by
  cases hp : Path.split? p with
  | none => rw [setProperty_of_split?_none hp]
  | some place =>
    rw [setProperty_eq hp]
    split <;> simp

theorem available_setProperty (r : Repository) (p : String) (s : StoredProperty) :
    (r.setProperty p s).available = r.available := by
  cases hp : Path.split? p with
  | none => rw [setProperty_of_split?_none hp]
  | some place =>
    rw [setProperty_eq hp]
    split <;> simp

theorem failing_removeProperty (r : Repository) (p : String) :
    (r.removeProperty p).2.failing = r.failing := by
  cases hp : Path.split? p with
  | none => rw [removeProperty, hp]
  | some place =>
    rw [removeProperty_eq hp]
    split <;> rfl

/-- What lies at a place behind a write: what was written, if the place is that of the path and its node
is found as it is written. -/
theorem propertyAt?_setProperty (hp : Path.split? p = some place) (s : StoredProperty)
    (x : String × String) :
    (r.setProperty p s).propertyAt? x =
      if x = place ∧ place.1 ∈ (r.addNode place.1).nodes.keys then some s else r.propertyAt? x := by
  rw [setProperty_eq hp]
  cases hm : (r.addNode place.1).nodes.get? place.1 with
  | none =>
    have hnode : place.1 ∉ (r.addNode place.1).nodes.keys := by
      rw [KeyMap.mem_keys, hm]
      exact fun ⟨_, h⟩ => nomatch h
    rw [if_neg fun h => hnode h.2]
    exact propertyAt?_addNode r _ x
  | some m =>
    have hnode : place.1 ∈ (r.addNode place.1).nodes.keys := KeyMap.mem_keys.mpr ⟨m, hm⟩
    show propertyAt? { r.addNode place.1 with
      nodes := (r.addNode place.1).nodes.insert place.1 (m.insert place.2 s) } x = _
    rw [propertyAt?_insert, propertyAt?_addNode, KeyMap.get?_insert]
    obtain ⟨n, k⟩ := x
    by_cases hn : n = place.1
    · subst hn
      have hold : m.get? k = r.propertyAt? (place.1, k) := by
        rw [← propertyAt?_addNode r place.1, propertyAt?, hm]
        rfl
      rw [if_pos rfl, hold]
      refine if_congr ?_ rfl rfl
      rw [Prod.ext_iff]
      exact ⟨fun hk => ⟨⟨rfl, hk⟩, hnode⟩, fun h => h.1.2⟩
    · rw [if_neg hn, if_neg fun h => hn (congrArg Prod.fst h.1)]

theorem fst_removeProperty (hp : Path.split? p = some place) :
    (r.removeProperty p).1 = (r.propertyAt? place).isSome := by
  rw [removeProperty_eq hp, propertyAt?]
  cases r.nodes.get? place.1 <;> rfl

theorem propertyAt?_removeProperty (hp : Path.split? p = some place) (x : String × String) :
    (r.removeProperty p).2.propertyAt? x = if x = place then none else r.propertyAt? x := by
  rw [removeProperty_eq hp]
  obtain ⟨n, k⟩ := x
  cases hm : r.nodes.get? place.1 with
  | none =>
    show r.propertyAt? (n, k) = _
    split
    · next heq => rw [heq, propertyAt?, hm]; rfl
    · rfl
  | some m =>
    show propertyAt? { r with nodes := r.nodes.insert place.1 (m.erase place.2) } (n, k) = _
    rw [propertyAt?_insert, KeyMap.get?_erase]
    by_cases hn : n = place.1
    · subst hn
      have hold : m.get? k = r.propertyAt? (place.1, k) := by
        rw [propertyAt?, hm]
        rfl
      rw [if_pos rfl, hold]
      refine if_congr ?_ rfl rfl
      rw [Prod.ext_iff]
      exact ⟨fun hk => ⟨rfl, hk⟩, fun h => h.2⟩
    · rw [if_neg hn, if_neg fun h => hn (congrArg Prod.fst h)]

/-- A repository consists of its nodes, of what lies at its places and of what makes access fail. -/
theorem eq_of_places (hkeys : ∀ q, q ∈ r.nodes.keys ↔ q ∈ r'.nodes.keys)
    (hplaces : ∀ x, r.propertyAt? x = r'.propertyAt? x) (hfailing : r.failing = r'.failing)
    (havailable : r.available = r'.available) : r = r' := by
  have hnodes : r.nodes = r'.nodes := by
    refine KeyMap.ext_get? fun node => ?_
    have hnode := hkeys node
    rw [KeyMap.mem_keys, KeyMap.mem_keys] at hnode
    cases hm : r.nodes.get? node with
    | none =>
      cases hm' : r'.nodes.get? node with
      | none => rfl
      | some m' =>
        rw [hm] at hnode
        obtain ⟨_, h⟩ := hnode.mpr ⟨m', hm'⟩
        cases h
    | some m =>
      obtain ⟨m', hm'⟩ := hnode.mp ⟨m, hm⟩
      rw [hm']
      refine congrArg some (KeyMap.ext_get? fun name => ?_)
      have hplace := hplaces (node, name)
      rwa [propertyAt?, propertyAt?, hm, hm'] at hplace
  obtain ⟨nodes, failing, available⟩ := r
  obtain ⟨nodes', failing', available'⟩ := r'
  cases hnodes
  cases hfailing
  cases havailable
  rfl

theorem stored?_eq (hf : r.failing = []) (p : String) :
    r.stored? p = match (Path.split? p).bind r.propertyAt? with
      | none => .error (.notFound p)
      | some s => .ok s := by
  rw [stored?, checkAccess_of_failing_nil hf]
  cases hp : Path.split? p with
  | none => rfl
  | some place =>
    show (do
      r.checkAccess place.1
      match r.propertyAt? place with
      | none => .error (.notFound p)
      | some s => .ok s) = _
    rw [checkAccess_of_failing_nil hf]
    rfl

end Repository

end Sentinel
