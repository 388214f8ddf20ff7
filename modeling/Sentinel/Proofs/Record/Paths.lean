import Mathlib.Data.List.DropRight
import Sentinel.Record.MemoryStore
/-!
# Paths of records below a root

The path of a record is its root without the slashes at its end, the six parts of a date, and a name,
each behind a slash. A store creates nothing at a path with an empty or relative segment. Neither the date
nor the name has such a segment, so it depends on the root alone whether records can be created below it.

1. `isStep_date`, `isStep_name`: the segments that are added to a root.
2. `toList_path`: the path of a record.
3. `checkPath_of_isRoot`, `checkPath_of_not_isRoot`: below which roots a path is refused.
-/

namespace Sentinel

namespace Text

theorem flatMap_pieces (sep : Char) (cs : List Char) : (pieces sep cs).flatMap (sep :: ·) = sep :: cs := by
  induction cs with
  | nil => rfl
  | cons c cs ih =>
    obtain ⟨p, ps, hp⟩ := List.exists_cons_of_ne_nil (pieces_ne_nil sep cs)
    rw [hp, List.flatMap_cons, List.cons_append, List.cons.injEq] at ih
    rw [pieces]
    split
    · next h => rw [List.flatMap_cons, hp, List.flatMap_cons, List.cons_append, List.cons_append, ih.2, h]; rfl
    · rw [hp, List.flatMap_cons, List.cons_append, List.cons_append, ih.2]

/-- Texts that are joined by a separator, with one in front, each stand behind a separator. -/
theorem cons_intercalate (sep : Char) {ss : List (List Char)} (h : ss ≠ []) :
    sep :: [sep].intercalate ss = ss.flatMap (sep :: ·) := by
  induction ss with
  | nil => exact absurd rfl h
  | cons s ss ih =>
    rcases ss with _ | ⟨t, ts⟩
    · simp
    · rw [List.flatMap_cons, ← ih (List.cons_ne_nil t ts)]
      simp [List.intercalate]

theorem mem_intercalate {sep c : Char} {ss : List (List Char)} (h : c ∈ [sep].intercalate ss) :
    c = sep ∨ ∃ s ∈ ss, c ∈ s := by
  by_cases hss : ss = []
  · subst hss
    cases h
  · have hmem : c ∈ ss.flatMap (sep :: ·) := cons_intercalate sep hss ▸ List.mem_cons_of_mem sep h
    obtain ⟨s, hs, hc⟩ := List.mem_flatMap.mp hmem
    rcases List.mem_cons.mp hc with rfl | hc
    · exact .inl rfl
    · exact .inr ⟨s, hs, hc⟩

end Text

namespace Record

/-- A segment that may stand in the path of a record. -/
structure IsStep (s : List Char) : Prop where
  isSegment : Path.IsSegment s
  absolute : s ≠ ['.'] ∧ s ≠ ['.', '.']

instance (s : List Char) : Decidable (IsStep s) :=
  decidable_of_iff ((s ≠ [] ∧ '/' ∉ s) ∧ s ≠ ['.'] ∧ s ≠ ['.', '.']) ⟨fun h => ⟨h.1, h.2⟩, fun h => ⟨h.1, h.2⟩⟩

theorem isStep_of_no_dot {s : List Char} (hne : s ≠ []) (h : ∀ c ∈ s, c ≠ '/' ∧ c ≠ '.') : IsStep s := by
  refine ⟨⟨hne, fun hmem => (h _ hmem).1 rfl⟩, ?_, ?_⟩
  · rintro rfl
    exact (h '.' (by simp)).2 rfl
  · rintro rfl
    exact (h '.' (by simp)).2 rfl

theorem plain_of_isDigit {c : Char} (h : c.isDigit = true) : c ≠ '/' ∧ c ≠ '.' := by
  constructor
  · rintro rfl
    cases h
  · rintro rfl
    cases h

theorem plain_of_mem_padded {width n : Nat} {c : Char} (h : c ∈ Text.padded width n) : c ≠ '/' ∧ c ≠ '.' := by
  rcases List.mem_append.mp h with h | h
  · rw [List.eq_of_mem_replicate h]
    decide
  · exact plain_of_isDigit (List.all_eq_true.mp (Text.all_isDigit_decimal n) c h)

theorem isStep_padded (width n : Nat) : IsStep (Text.padded width n) :=
  isStep_of_no_dot (List.append_ne_nil_of_right_ne_nil _ (Text.decimal_ne_nil n)) fun _ => plain_of_mem_padded

theorem isStep_year (year : Int) : IsStep (CivilTime.yearChars year) := by
  rw [CivilTime.yearChars]
  split
  · exact isStep_padded 4 _
  · refine isStep_of_no_dot (List.cons_ne_nil _ _) fun c hc => ?_
    rcases List.mem_cons.mp hc with rfl | hc
    · split <;> decide
    · exact plain_of_mem_padded hc

theorem isStep_date {t : Instant} {s : String} (hs : s ∈ t.pathSegments) : IsStep s.toList := by
  obtain ⟨cs, hcs, rfl⟩ := List.mem_map.mp hs
  rw [String.toList_ofList]
  simp only [List.mem_cons, List.not_mem_nil, or_false] at hcs
  rcases hcs with rfl | rfl | rfl | rfl | rfl | rfl
  · exact isStep_year _
  all_goals exact isStep_padded 2 _

theorem plain_of_mem_hexDigits {width n : Nat} {c : Char} (h : c ∈ Text.hexDigits width n) :
    c ≠ '/' ∧ c ≠ '.' := by
  induction width generalizing n with
  | zero => cases h
  | succ width ih =>
    rcases List.mem_append.mp h with h | h
    · exact ih h
    · have hall : ∀ m < 16, m.digitChar ≠ '/' ∧ m.digitChar ≠ '.' := by decide
      rw [List.mem_singleton.mp h]
      exact hall _ (Nat.mod_lt n (by decide))

theorem plain_of_mem_text {id : RecordId} {c : Char} (h : c ∈ id.text.toList) : c ≠ '/' ∧ c ≠ '.' := by
  rw [RecordId.text, String.toList_intercalate] at h
  rcases Text.mem_intercalate h with rfl | ⟨s, hs, hc⟩
  · decide
  · obtain ⟨group, hgroup, rfl⟩ := List.mem_map.mp hs
    obtain ⟨width, n, rfl⟩ : ∃ width n, group = String.ofList (Text.hexDigits width n) := by
      simp only [List.mem_cons, List.not_mem_nil, or_false] at hgroup
      rcases hgroup with rfl | rfl | rfl | rfl | rfl <;> exact ⟨_, _, rfl⟩
    rw [String.toList_ofList] at hc
    exact plain_of_mem_hexDigits hc

theorem isStep_name (t : PropertyType) (id : RecordId) : IsStep (name t id).toList := by
  have hall : t.canonicalName.toList.all (fun c => c ≠ '/' && c ≠ '.') = true := by
    cases t <;> rfl
  have htype : ∀ c ∈ t.canonicalName.toList, c ≠ '/' ∧ c ≠ '.' :=
    fun c hc => by simpa using List.all_eq_true.mp hall c hc
  rw [name, String.toList_append, String.toList_append]
  refine isStep_of_no_dot (by simp) fun c hc => ?_
  rcases List.mem_append.mp hc with hc | hc
  · rcases List.mem_append.mp hc with hc | hc
    · exact htype c hc
    · obtain rfl := List.mem_singleton.mp hc
      decide
  · exact plain_of_mem_text hc

/-- The segments of a record's path below its root. -/
def steps (time : Instant) (t : PropertyType) (id : RecordId) : List (List Char) :=
  time.pathSegments.map String.toList ++ [(name t id).toList]

theorem isStep_of_mem_steps {time : Instant} {t : PropertyType} {id : RecordId} {s : List Char}
    (hs : s ∈ steps time t id) : IsStep s := by
  rcases List.mem_append.mp hs with hs | hs
  · obtain ⟨segment, hsegment, rfl⟩ := List.mem_map.mp hs
    exact isStep_date hsegment
  · rw [List.mem_singleton.mp hs]
    exact isStep_name t id

/-- A root without the slashes at its end. -/
def trimmed (root : String) : List Char := (root.toList.reverse.dropWhile (· = '/')).reverse

theorem toList_path (root : String) (time : Instant) (t : PropertyType) (id : RecordId) :
    (Path.child (folder root time) (name t id)).toList =
      trimmed root ++ (steps time t id).flatMap ('/' :: ·) := by
  have hdate : time.pathSegments.map String.toList ≠ [] := List.cons_ne_nil _ _
  have hfolder : (folder root time).toList =
      trimmed root ++ (time.pathSegments.map String.toList).flatMap ('/' :: ·) := by
    rw [folder, String.toList_append, String.toList_append, String.toList_ofList, String.toList_intercalate,
      List.append_assoc, ← Text.cons_intercalate '/' hdate]
    rfl
  have hlast : (folder root time).toList.getLast? ≠ some '/' := by
    have hne : (time.pathSegments.map String.toList).flatMap ('/' :: ·) ≠ [] := List.cons_ne_nil _ _
    rw [hfolder, List.getLast?_append_of_ne_nil _ hne]
    refine Path.getLast?_flatMap fun s hs => ?_
    obtain ⟨segment, hsegment, rfl⟩ := List.mem_map.mp hs
    exact (isStep_date hsegment).isSegment
  rw [Path.child, if_neg hlast, String.toList_append, String.toList_append, hfolder, steps, List.flatMap_append]
  simp

/-- The path of a record: its root without the slashes at its end, the date down to the second, and the
type with an identifier, all joined by slashes. -/
def path (root : String) (stamp : RecordStamp) (t : PropertyType) : String :=
  String.ofList (trimmed root) ++ "/" ++ "/".intercalate stamp.time.pathSegments ++ "/" ++
    t.canonicalName ++ "-" ++ stamp.id.text

theorem child_folder (root : String) (stamp : RecordStamp) (t : PropertyType) :
    Path.child (folder root stamp.time) (name t stamp.id) = path root stamp t := by
  have hdate : stamp.time.pathSegments.map String.toList ≠ [] := List.cons_ne_nil _ _
  apply String.toList_injective
  rw [toList_path, steps, List.flatMap_append, ← Text.cons_intercalate '/' hdate, List.flatMap_singleton, path]
  simp only [name, String.toList_append, String.toList_ofList, String.toList_intercalate, List.append_assoc]
  rfl

/-- A root that records can be created below: segments that may stand in their paths, each behind a
slash, and slashes behind them. -/
def IsRoot (root : String) : Prop :=
  ∃ (ss : List (List Char)) (n : Nat), (∀ s ∈ ss, IsStep s) ∧
    root.toList = ss.flatMap ('/' :: ·) ++ List.replicate n '/'

theorem trimmed_append (root : String) : ∃ n, root.toList = trimmed root ++ List.replicate n '/' := by
  refine ⟨(root.toList.rtakeWhile (· = '/')).length, ?_⟩
  have hall : ∀ c ∈ root.toList.rtakeWhile (· = '/'), c = '/' :=
    fun c hc => by simpa using List.mem_rtakeWhile_imp hc
  rw [← List.eq_replicate_of_mem hall]
  exact List.rdropWhile_append_rtakeWhile.symm

theorem trimmed_of_steps {root : String} {ss : List (List Char)} {n : Nat} (hss : ∀ s ∈ ss, IsStep s)
    (hroot : root.toList = ss.flatMap ('/' :: ·) ++ List.replicate n '/') :
    trimmed root = ss.flatMap ('/' :: ·) := by
  have hlast := Path.getLast?_flatMap fun s hs => (hss s hs).isSegment
  rw [trimmed, hroot, List.reverse_append, List.reverse_replicate, List.dropWhile_append_of_pos (by simp)]
  generalize ss.flatMap ('/' :: ·) = cs at hlast
  rcases List.eq_nil_or_concat cs with rfl | ⟨init, c, rfl⟩
  · rfl
  · rw [List.concat_eq_append, List.getLast?_append, List.getLast?_singleton, Option.some_or] at hlast
    have hc : c ≠ '/' := fun h => hlast (congrArg some h)
    rw [List.concat_eq_append, List.reverse_append, List.reverse_singleton, List.singleton_append,
      List.dropWhile_cons_of_neg (by simpa using hc), List.reverse_cons, List.reverse_reverse]

/-- What is left of an absolute root is segments, each behind a slash. -/
theorem exists_trimmed {root : String} (hroot : root.toList.head? = some '/') :
    ∃ ss : List (List Char), (∀ s ∈ ss, '/' ∉ s) ∧ trimmed root = ss.flatMap ('/' :: ·) := by
  obtain ⟨n, hn⟩ := trimmed_append root
  rcases hcs : trimmed root with _ | ⟨c, cs⟩
  · exact ⟨[], fun s hs => absurd hs List.not_mem_nil, rfl⟩
  · rw [hn, hcs] at hroot
    obtain rfl : c = '/' := Option.some.inj hroot
    exact ⟨Text.pieces '/' cs, fun s hs => Text.not_mem_of_mem_pieces hs, (Text.flatMap_pieces '/' cs).symm⟩

theorem checkPath_of_segments {path : String} {ss : List (List Char)} (hne : ss ≠ [])
    (hss : ∀ s ∈ ss, '/' ∉ s) (hpath : path.toList = ss.flatMap ('/' :: ·)) :
    checkPath path = if ss.any (fun s => s.isEmpty || s = ['.'] || s = ['.', '.']) then
      .error (.persist path "path has an empty or relative segment") else .ok () := by
  obtain ⟨s, ss, rfl⟩ := List.exists_cons_of_ne_nil hne
  rw [checkPath, hpath, Text.pieces_flatMap hss]

theorem isStep_iff {s : List Char} (hs : '/' ∉ s) :
    IsStep s ↔ ¬(s.isEmpty || s = ['.'] || s = ['.', '.']) = true := by
  simp only [Bool.or_eq_true, List.isEmpty_iff, decide_eq_true_eq, not_or]
  constructor
  · rintro ⟨⟨hne, -⟩, hdot, hdots⟩
    exact ⟨⟨hne, hdot⟩, hdots⟩
  · rintro ⟨⟨hne, hdot⟩, hdots⟩
    exact ⟨⟨hne, hs⟩, hdot, hdots⟩

section

variable {root : String} (time : Instant) (t : PropertyType) (id : RecordId)

/-- Below a root of segments no path of a record is refused. -/
theorem checkPath_of_isRoot (hroot : IsRoot root) :
    checkPath (Path.child (folder root time) (name t id)) = .ok () := by
  obtain ⟨ss, n, hss, hchars⟩ := hroot
  have hall : ∀ s ∈ ss ++ steps time t id, IsStep s := by
    intro s hs
    rcases List.mem_append.mp hs with hs | hs
    · exact hss s hs
    · exact isStep_of_mem_steps hs
  have hpath : (Path.child (folder root time) (name t id)).toList =
      (ss ++ steps time t id).flatMap ('/' :: ·) := by
    rw [toList_path, trimmed_of_steps hss hchars, List.flatMap_append]
  rw [checkPath_of_segments (by simp [steps]) (fun s hs => (hall s hs).isSegment.2) hpath, if_neg]
  rw [List.any_eq_true]
  rintro ⟨s, hs, hrefused⟩
  exact (isStep_iff (hall s hs).isSegment.2).mp (hall s hs) hrefused

/-- Below any other root that is absolute, every path of a record is. -/
theorem checkPath_of_not_isRoot (habsolute : root.toList.head? = some '/') (hroot : ¬IsRoot root) :
    checkPath (Path.child (folder root time) (name t id)) =
      .error (.persist (Path.child (folder root time) (name t id)) "path has an empty or relative segment") := by
  obtain ⟨ss, hss, htrimmed⟩ := exists_trimmed habsolute
  obtain ⟨s, hs, hstep⟩ : ∃ s ∈ ss, ¬IsStep s := by
    by_contra hcontra
    push Not at hcontra
    obtain ⟨n, hn⟩ := trimmed_append root
    exact hroot ⟨ss, n, hcontra, htrimmed ▸ hn⟩
  have hall : ∀ s ∈ ss ++ steps time t id, '/' ∉ s := by
    intro s hs
    rcases List.mem_append.mp hs with hs | hs
    · exact hss s hs
    · exact (isStep_of_mem_steps hs).isSegment.2
  have hpath : (Path.child (folder root time) (name t id)).toList =
      (ss ++ steps time t id).flatMap ('/' :: ·) := by
    rw [toList_path, htrimmed, List.flatMap_append]
  rw [checkPath_of_segments (by simp [steps]) hall hpath, if_pos]
  rw [List.any_eq_true]
  exact ⟨s, List.mem_append_left _ hs, not_not.mp (mt (isStep_iff (hss s hs)).mpr hstep)⟩

end

end Record

end Sentinel
