import Sentinel.Proofs.Content.Reading
/-!
# Writing and reading properties

A repository is a map from the places of properties to properties, and paths are spellings of places. Only
a place right below the root has two spellings. A write adds its node under the normalized path, but looks
it up as it was spelled, so that what is written under a node that is not normalized is lost. Apart from
this the laws of a map hold.

1. `Path.split?_eq_iff`: which paths spell one place.
2. `mem_keys_addNode_self_iff`: which nodes are found as they are spelled, once they are added.
3. `propertyAt?_setProperty_self`, `propertyAt?_setProperty_lost`, `propertyAt?_setProperty_of_ne`: what one
   write does to each place.
4. `setProperty_setProperty`, `setProperty_comm`: two writes at one path, and at two places.
5. `propertyAt?_written`: a row of writes at other places.
6. `tells_of_propertyAt?`, `misses_of_propertyAt?`, `alike_of_propertyAt?`: a session reads what lies at the
   place of a path.
7. `setProperty_reads`: a write, and then writes elsewhere or a removal, as they are read.
-/

namespace Sentinel

namespace Path

variable {p q : String} {place : String × String}

/-- Two paths spell one place: they are the same, or one slash stands before a name right below the root
in one of them, and two in the other. -/
def SamePlace (p q : String) : Prop :=
  q = p ∨ ∃ name : List Char, IsSegment name ∧
    (p.toList = '/' :: name ∧ q.toList = '/' :: '/' :: name ∨
      p.toList = '/' :: '/' :: name ∧ q.toList = '/' :: name)

/-- The path of a node from what stands before the slash and the name of a property. -/
def nodeOf (before : List Char) : String := if before.isEmpty then "/" else String.ofList before

theorem nodeOf_eq_iff {before before' : List Char} : nodeOf before' = nodeOf before ↔
    before' = before ∨ before = [] ∧ before' = ['/'] ∨ before = ['/'] ∧ before' = [] := by
  have hroot {cs : List Char} : String.ofList cs = "/" ↔ cs = ['/'] := by
    rw [← String.toList_inj, String.toList_ofList]
    rfl
  rcases before with _ | ⟨c, cs⟩ <;> rcases before' with _ | ⟨c', cs'⟩
  · simp
  · show String.ofList (c' :: cs') = "/" ↔ _
    rw [hroot]
    simp
  · show "/" = String.ofList (c :: cs) ↔ _
    rw [eq_comm, hroot]
    simp
  · simp [nodeOf, String.ofList_inj]

theorem split?_append (before : List Char) {name : List Char} (hname : IsSegment name)
    (hp : p.toList = before ++ '/' :: name) : split? p = some (nodeOf before, String.ofList name) := by
  rw [split?, hp, Text.splitLast_append before hname.2]
  dsimp only
  rw [if_neg (by simpa using hname.1)]
  rfl

theorem exists_of_split? (h : split? p = some place) : ∃ before name, IsSegment name ∧
    p.toList = before ++ '/' :: name ∧ place = (nodeOf before, String.ofList name) := by
  rw [split?] at h
  split at h
  · cases h
  · next before name hs =>
    obtain ⟨hp, hslash⟩ := Text.splitLast_eq_some_iff.mp hs
    split at h
    · cases h
    · next hname => exact ⟨before, name, ⟨by simpa using hname, hslash⟩, hp, (Option.some.inj h).symm⟩

/-- A place has one spelling, or two if it lies right below the root. -/
theorem split?_eq_iff (hp : split? p = some place) : split? q = split? p ↔ SamePlace p q := by
  obtain ⟨before, name, hname, hlist, rfl⟩ := exists_of_split? hp
  constructor
  · intro hq
    obtain ⟨before', name', -, hlist', hplace⟩ := exists_of_split? (hq.trans hp)
    obtain ⟨hnode, heq⟩ := Prod.mk.inj hplace
    obtain rfl := String.ofList_injective heq
    rcases nodeOf_eq_iff.mp hnode with rfl | ⟨rfl, rfl⟩ | ⟨rfl, rfl⟩
    · exact .inl (String.toList_injective (hlist'.trans hlist.symm))
    · exact .inr ⟨name, hname, .inr ⟨hlist, hlist'⟩⟩
    · exact .inr ⟨name, hname, .inl ⟨hlist, hlist'⟩⟩
  · rintro (rfl | ⟨name', hname', ⟨hone, htwo⟩ | ⟨htwo, hone⟩⟩)
    · rfl
    · exact (split?_append ['/'] hname' htwo).trans
        (split?_append [] hname' hone).symm
    · exact (split?_append [] hname' hone).trans
        (split?_append ['/'] hname' htwo).symm

end Path

/-- A length, or a list of lengths, is that of the values of a property. -/
def Lengths.Fits : Lengths → StoredProperty → Prop
  | .single n, s => s.multiple = false ∧ s.values.map (·.length) = [n]
  | .multiple ns, s => s.multiple = true ∧ s.values.map (·.length) = ns

namespace Session

/-- A session tells of a property at a path: its type, its shape and its values, and nothing else. -/
structure Tells (session : Session) (p : String) (s : StoredProperty) : Prop where
  property : ∃ c, session.property? p = .ok c ∧ c.path = p ∧ c.propertyType = s.propertyType ∧
    c.lengths.Fits s
  value : ∀ index v, session.value? p index = .ok v ↔ index.isSome = s.multiple ∧ s.at? index = some v

/-- A session finds nothing at a path. -/
structure Misses (session : Session) (p : String) : Prop where
  property : session.property? p = .error (.notFound p)
  value : ∀ index, session.value? p index = .error (.notFound p)

/-- Two sessions read alike at a path. -/
structure Alike (session session' : Session) (p : String) : Prop where
  property : session.property? p = session'.property? p
  value : ∀ index, session.value? p index = session'.value? p index

end Session

namespace StoredProperty

theorem fits_describe {s : StoredProperty} (hone : s.multiple = false → s.values.length = 1) (p : String) :
    (s.describe p).lengths.Fits s := by
  rw [describe]
  cases hm : s.multiple with
  | true => exact ⟨hm, rfl⟩
  | false =>
    obtain ⟨v, hv⟩ := List.length_eq_one_iff.mp (hone hm)
    rw [hv]
    exact ⟨hm, by rw [hv]; rfl⟩

end StoredProperty

namespace Repository

variable {r r' : Repository} {p q : String} {s t : StoredProperty} {place : String × String}

/-- The path of every node is normalized. -/
def IsTidy (r : Repository) : Prop := ∀ q ∈ r.nodes.keys, Path.IsNormalized q

theorem IsTidy.setProperty (h : r.IsTidy) (p : String) (s : StoredProperty) : (r.setProperty p s).IsTidy := by
  cases hp : Path.split? p with
  | none => rwa [setProperty_of_split?_none hp]
  | some place =>
    intro q hq
    rcases (mem_keys_setProperty hp s q).mp hq with hq | hq
    · exact Path.isNormalized_of_mem_ancestry hq
    · exact h q hq

theorem mem_keys_addNode_self_iff (h : r.IsTidy) {node : String} :
    node ∈ (r.addNode node).nodes.keys ↔ Path.IsNormalized node := by
  rw [mem_keys_addNode, Path.mem_ancestry_self_iff]
  exact ⟨fun hnode => hnode.elim id (h node), .inl⟩

theorem propertyAt?_setProperty_self (h : r.IsTidy) (hp : Path.split? p = some place)
    (hnode : Path.IsNormalized place.1) (s : StoredProperty) :
    (r.setProperty p s).propertyAt? place = some s := by
  rw [propertyAt?_setProperty hp, if_pos ⟨rfl, (mem_keys_addNode_self_iff h).mpr hnode⟩]

/-- A write under a node that is not normalized is lost. -/
theorem propertyAt?_setProperty_lost (h : r.IsTidy) (hp : Path.split? p = some place)
    (hnode : ¬Path.IsNormalized place.1) (s : StoredProperty) (x : String × String) :
    (r.setProperty p s).propertyAt? x = r.propertyAt? x := by
  rw [propertyAt?_setProperty hp, if_neg fun hx => hnode ((mem_keys_addNode_self_iff h).mp hx.2)]

theorem propertyAt?_setProperty_of_ne (hp : Path.split? p ≠ some place) (s : StoredProperty) :
    (r.setProperty p s).propertyAt? place = r.propertyAt? place := by
  cases hplace : Path.split? p with
  | none => rw [setProperty_of_split?_none hplace]
  | some place' =>
    rw [propertyAt?_setProperty hplace, if_neg]
    rintro ⟨rfl, -⟩
    exact hp hplace

theorem propertyAt?_of_not_normalized (h : r.IsTidy) (hnode : ¬Path.IsNormalized place.1) :
    r.propertyAt? place = none := by
  rw [propertyAt?]
  cases hm : r.nodes.get? place.1 with
  | none => rfl
  | some m => exact absurd (h place.1 (KeyMap.mem_keys.mpr ⟨m, hm⟩)) hnode

theorem setProperty_setProperty (h : r.IsTidy) (p : String) (s t : StoredProperty) :
    (r.setProperty p s).setProperty p t = r.setProperty p t := by
  cases hp : Path.split? p with
  | none => simp only [setProperty_of_split?_none hp]
  | some place =>
    refine eq_of_places (fun q => ?_) (fun x => ?_) (by simp only [failing_setProperty])
      (by simp only [available_setProperty])
    · simp only [mem_keys_setProperty hp, ← or_assoc, or_self]
    · by_cases hnode : Path.IsNormalized place.1
      · by_cases hx : x = place
        · rw [hx, propertyAt?_setProperty_self (h.setProperty p s) hp hnode,
            propertyAt?_setProperty_self h hp hnode]
        · have hother : Path.split? p ≠ some x := fun heq => hx (Option.some.inj (heq.symm.trans hp))
          simp only [propertyAt?_setProperty_of_ne hother]
      · simp only [propertyAt?_setProperty_lost (h.setProperty p s) hp hnode,
          propertyAt?_setProperty_lost h hp hnode]

/-- What lies at a place behind a write depends on nothing but what lay there before. -/
theorem propertyAt?_setProperty_congr (h : r.IsTidy) (h' : r'.IsTidy)
    (hplace : r.propertyAt? place = r'.propertyAt? place) (p : String) (s : StoredProperty) :
    (r.setProperty p s).propertyAt? place = (r'.setProperty p s).propertyAt? place := by
  by_cases hp : Path.split? p = some place
  · by_cases hnode : Path.IsNormalized place.1
    · rw [propertyAt?_setProperty_self h hp hnode, propertyAt?_setProperty_self h' hp hnode]
    · rw [propertyAt?_setProperty_lost h hp hnode, propertyAt?_setProperty_lost h' hp hnode, hplace]
  · rw [propertyAt?_setProperty_of_ne hp, propertyAt?_setProperty_of_ne hp, hplace]

theorem setProperty_comm (h : r.IsTidy) (hpq : Path.split? p ≠ Path.split? q) (s t : StoredProperty) :
    (r.setProperty p s).setProperty q t = (r.setProperty q t).setProperty p s := by
  cases hp : Path.split? p with
  | none => simp only [setProperty_of_split?_none hp]
  | some x =>
    cases hq : Path.split? q with
    | none => simp only [setProperty_of_split?_none hq]
    | some y =>
      refine eq_of_places (fun n => ?_) (fun z => ?_) (by simp only [failing_setProperty])
        (by simp only [available_setProperty])
      · simp only [mem_keys_setProperty hp, mem_keys_setProperty hq]
        exact or_left_comm
      · -- One of the two writes is made elsewhere, and can be left out on both sides.
        by_cases hqz : Path.split? q = some z
        · have hpz : Path.split? p ≠ some z := fun heq => hpq (heq.trans hqz.symm)
          rw [propertyAt?_setProperty_of_ne hpz]
          exact propertyAt?_setProperty_congr (h.setProperty p s) h (propertyAt?_setProperty_of_ne hpz s) q t
        · rw [propertyAt?_setProperty_of_ne hqz]
          exact propertyAt?_setProperty_congr h (h.setProperty q t)
            (propertyAt?_setProperty_of_ne hqz t).symm p s

/-- Writes in a row. -/
def written (r : Repository) (writes : List (String × StoredProperty)) : Repository :=
  writes.foldl (fun r w => r.setProperty w.1 w.2) r

theorem failing_written (r : Repository) (writes : List (String × StoredProperty)) :
    (r.written writes).failing = r.failing := by
  induction writes generalizing r with
  | nil => rfl
  | cons w writes ih =>
    show ((r.setProperty w.1 w.2).written writes).failing = _
    rw [ih, failing_setProperty]

/-- Writes at other places leave what lies at a place. -/
theorem propertyAt?_written {writes : List (String × StoredProperty)}
    (h : ∀ w ∈ writes, Path.split? w.1 ≠ some place) :
    (r.written writes).propertyAt? place = r.propertyAt? place := by
  induction writes generalizing r with
  | nil => rfl
  | cons w writes ih =>
    obtain ⟨hw, hrest⟩ := List.forall_mem_cons.mp h
    show ((r.setProperty w.1 w.2).written writes).propertyAt? place = _
    rw [ih hrest, propertyAt?_setProperty_of_ne hw]

theorem tells_of_propertyAt? (hf : r.failing = []) (hp : Path.split? p = some place)
    (hs : r.propertyAt? place = some s) (hone : s.multiple = false → s.values.length = 1) :
    Session.Tells ⟨r⟩ p s := by
  have hstored : r.stored? p = .ok s := by
    rw [stored?_eq hf, hp, Option.bind_some, hs]
  refine ⟨⟨s.describe p, ?_, rfl, rfl, s.fits_describe hone p⟩, fun index v =>
    Session.value?_eq_ok_iff hstored index⟩
  rw [Session.property?, hstored]
  rfl

theorem misses_of_propertyAt? (hf : r.failing = []) (hs : (Path.split? p).bind r.propertyAt? = none) :
    Session.Misses ⟨r⟩ p := by
  have hstored : r.stored? p = .error (.notFound p) := by
    rw [stored?_eq hf, hs]
  refine ⟨?_, fun index => ?_⟩
  · rw [Session.property?, hstored]
    rfl
  · rw [Session.value?, hstored]
    rfl

theorem alike_of_propertyAt? (hf : r.failing = []) (hf' : r'.failing = [])
    (hs : ∀ place, Path.split? p = some place → r.propertyAt? place = r'.propertyAt? place) :
    Session.Alike ⟨r⟩ ⟨r'⟩ p := by
  have hstored : r.stored? p = r'.stored? p := by
    rw [stored?_eq hf, stored?_eq hf']
    cases hp : Path.split? p with
    | none => rfl
    | some place => rw [Option.bind_some, Option.bind_some, hs place hp]
  refine ⟨?_, fun index => ?_⟩
  · rw [Session.property?, Session.property?, hstored]
  · rw [Session.value?, Session.value?, hstored]

/-- Removing what lies at the place of a path takes it away, says so and leaves what lies elsewhere. -/
theorem removeProperty_reads (hf : r.failing = []) (hp : Path.split? p = some place)
    (hs : r.propertyAt? place = some s) :
    (r.removeProperty p).1 = true ∧
      (∀ q, Path.split? q = Path.split? p → Session.Misses ⟨(r.removeProperty p).2⟩ q) ∧
      ∀ q, Path.split? q ≠ Path.split? p → Session.Alike ⟨(r.removeProperty p).2⟩ ⟨r⟩ q := by
  have hf' : (r.removeProperty p).2.failing = [] := by rw [failing_removeProperty, hf]
  refine ⟨by rw [fst_removeProperty hp, hs]; rfl, fun q hq => misses_of_propertyAt? hf' ?_, fun q hq =>
    alike_of_propertyAt? hf' hf fun x hx => ?_⟩
  · rw [hq, hp, Option.bind_some, propertyAt?_removeProperty hp, if_pos rfl]
  · rw [propertyAt?_removeProperty hp, if_neg]
    rintro rfl
    exact hq (hx.trans hp.symm)

/-- A write under a node whose path is normalized is read at its place, behind any writes elsewhere too,
until it is removed there, and leaves what is read elsewhere. A write under any other node cannot be read,
and leaves everything that is read. The last write at a path counts, and writes at two places commute. -/
theorem setProperty_reads (h : r.Reachable) (hf : r.failing = []) {node name : String}
    (hp : Path.split? p = some (node, name)) (s : StoredProperty)
    (hone : s.multiple = false → s.values.length = 1) :
    (Path.IsNormalized node →
      (∀ writes : List (String × StoredProperty), (∀ w ∈ writes, ¬Path.SamePlace p w.1) →
        ∀ q, Path.SamePlace p q → Session.Tells ⟨(r.setProperty p s).written writes⟩ q s) ∧
        (∀ q, ¬Path.SamePlace p q → Session.Alike ⟨r.setProperty p s⟩ ⟨r⟩ q) ∧
        ((r.setProperty p s).removeProperty p).1 = true ∧
        (∀ q, Path.SamePlace p q → Session.Misses ⟨((r.setProperty p s).removeProperty p).2⟩ q) ∧
        ∀ q, ¬Path.SamePlace p q →
          Session.Alike ⟨((r.setProperty p s).removeProperty p).2⟩ ⟨r.setProperty p s⟩ q) ∧
      (¬Path.IsNormalized node →
        Session.Misses ⟨r.setProperty p s⟩ p ∧ ∀ q, Session.Alike ⟨r.setProperty p s⟩ ⟨r⟩ q) ∧
      (∀ t, (r.setProperty p s).setProperty p t = r.setProperty p t) ∧
      ∀ q t, ¬Path.SamePlace p q →
        (r.setProperty p s).setProperty q t = (r.setProperty q t).setProperty p s := by
  have htidy : r.IsTidy := (isSound_of_reachable h).normalized
  have hf' : (r.setProperty p s).failing = [] := by rw [failing_setProperty, hf]
  have hspelled {q : String} : Path.split? q = Path.split? p ↔ Path.SamePlace p q := Path.split?_eq_iff hp
  refine ⟨fun hnode => ?_, fun hnode => ?_, setProperty_setProperty htidy p s, fun q t hq =>
    setProperty_comm htidy (mt (hspelled.mp ·.symm) hq) s t⟩
  · have hself := propertyAt?_setProperty_self htidy hp hnode s
    obtain ⟨hthere, hmisses, helse⟩ := removeProperty_reads hf' hp hself
    refine ⟨fun writes hwrites q hq => ?_, fun q hq => ?_, hthere, fun q hq => hmisses q (hspelled.mpr hq),
      fun q hq => helse q (mt hspelled.mp hq)⟩
    · refine tells_of_propertyAt? (by rw [failing_written, hf']) ((hspelled.mpr hq).trans hp) ?_ hone
      rw [propertyAt?_written fun w hw => hp ▸ mt hspelled.mp (hwrites w hw), hself]
    · refine alike_of_propertyAt? hf' hf fun place hplace => propertyAt?_setProperty_of_ne ?_ s
      rw [← hplace]
      exact mt (hspelled.mp ·.symm) hq
  · have hlost := propertyAt?_setProperty_lost htidy hp hnode s
    refine ⟨misses_of_propertyAt? hf' ?_, fun q => alike_of_propertyAt? hf' hf fun place _ => hlost place⟩
    rw [hp, Option.bind_some, hlost, propertyAt?_of_not_normalized htidy hnode]

/-- A text as an only value. -/
def note (text : String) : StoredProperty := ⟨.string, [.text text], false⟩

theorem setProperty_reads_note :
    Repository.empty.Reachable ∧ Path.split? "/a/x" = some ("/a", "x") ∧
      Session.Tells ⟨Repository.empty.setProperty "/a/x" (note "v")⟩ "/a/x" (note "v") := by
  have hreads := setProperty_reads Reachable.empty rfl (show Path.split? "/a/x" = some ("/a", "x") from rfl)
    (note "v") fun _ => rfl
  have hnode : Path.IsNormalized "/a" := ⟨[['a']], by simp [Path.IsSegment], rfl⟩
  exact ⟨Reachable.empty, rfl, (hreads.1 hnode).1 [] (by simp) _ (.inl rfl)⟩

/-- What is written under a node with a doubled slash in its path cannot be read there, and what is written
at a name right below the root is changed by a write at another path. -/
theorem setProperty_doubled :
    Repository.empty.Reachable ∧ Path.split? "/a//x" = some ("/a/", "x") ∧
      Session.property? ⟨Repository.empty.setProperty "/a//x" (note "v")⟩ "/a//x" =
        .error (.notFound "/a//x") ∧
      Session.value? ⟨(Repository.empty.setProperty "/x" (note "v")).setProperty "//x" (note "w")⟩ "/x" none =
        .ok (.text "w") :=
  ⟨Reachable.empty, rfl, rfl, rfl⟩

end Repository

end Sentinel
