import Sentinel.Dig.Request
import Sentinel.Proofs.Dig.Change
import Sentinel.Proofs.Dig.Coverage
import Sentinel.Proofs.Pattern.Language
import Sentinel.Proofs.Running
/-!
# Digs as the defaults have them

What a tree dig from the root and a change digger take where nothing is asked for. The dot of the default
pattern stands for any character but a line feed, so that a path with a line feed in it does not match.

1. `matches_repeated_chars`: any number of characters of a set.
2. `accepts_default`: the default pattern takes the absolute paths without a line feed.
3. `mem_jobs`: the jobs of a dig from the root are those for what is stored, of a type and at a path that
   the scope takes.
4. `defaults_leave_out`: both digs take exactly what stands at paths without a line feed.
-/

namespace Sentinel

namespace Pattern

namespace Expression

variable {before after : Option Char} {s : CharSet}

theorem rounds_chars {n : Nat} {w : List Char} :
    Rounds (chars s).Matches n before w after ↔ w.length = n ∧ ∀ c ∈ w, s.mem c := by
  induction n generalizing before w with
  | zero =>
    rw [List.length_eq_zero_iff]
    exact ⟨fun h => ⟨h, by rw [show w = [] from h]; simp⟩, fun h => h.1⟩
  | succ n ih =>
    constructor
    · rintro ⟨_, v, rfl, ⟨c, rfl, hc⟩, hv⟩
      obtain ⟨rfl, hall⟩ := ih.mp hv
      exact ⟨rfl, List.forall_mem_cons.mpr ⟨hc, hall⟩⟩
    · rintro ⟨hlen, hall⟩
      obtain ⟨c, v, rfl⟩ := List.exists_cons_of_length_eq_add_one hlen
      obtain ⟨hc, hv⟩ := List.forall_mem_cons.mp hall
      exact ⟨[c], v, rfl, ⟨c, rfl, hc⟩, ih.mpr ⟨Nat.succ.inj hlen, hv⟩⟩

theorem matches_repeated_chars {w : List Char} :
    (repeated (chars s) 0 none).Matches before w after ↔ ∀ c ∈ w, s.mem c := by
  constructor
  · rintro ⟨n, -, -, hn⟩
    exact (rounds_chars.mp hn).2
  · intro hw
    exact ⟨w.length, Nat.zero_le _, rfl, rounds_chars.mpr ⟨rfl, hw⟩⟩

end Expression

theorem CharSet.mem_single {c d : Char} : (CharSet.single c).mem d ↔ d = c := by
  have hmem : (CharSet.single c).mem d = (decide (c.toNat ≤ d.toNat) && decide (d.toNat ≤ c.toNat)) := by
    simp [CharSet.mem, CharSet.single, CharSet.holds, Unicode.Ranges.holds]
  rw [hmem, ← Char.toNat_inj]
  simp
  omega

end Pattern

namespace PathPattern

open Pattern Expression

/-- The characters that a dot stands for. -/
def dot : CharSet := .negate (.single '\n')

theorem mem_dot {c : Char} : dot.mem c ↔ c ≠ '\n' := by
  rw [dot, CharSet.mem_negate, Bool.not_eq_true', ← Bool.not_eq_true, CharSet.mem_single]

/-- What the default pattern matches: a slash, and then characters that a dot stands for. -/
def absolute : Expression :=
  concats [place .textStart, chars (.single '/'), repeated (chars dot) 0 none, place .textEnd]

/-- The pattern where none is given. -/
def default : PathPattern := ⟨defaultPathPattern, absolute.whole⟩

theorem ofSource?_of_ofText? [SizeLimit] {source : String} {e : Expression}
    (h : Expression.ofText? (anchored source) = some e) (hsize : SizeLimit.admits (anchored source)) :
    ofSource? source = .ok ⟨source, e⟩ := by
  unfold ofSource?
  rw [h]
  exact if_pos hsize

theorem error_of_ofSource? [SizeLimit] {source : String} {e : DispatchError}
    (h : ofSource? source = .error e) : e = .invalidValue "pattern" source := by
  unfold ofSource? at h
  split at h
  · split at h
    · cases h
    · exact (Except.error.inj h).symm
  · exact (Except.error.inj h).symm

theorem ofSource?_default [SizeLimit] : ofSource? defaultPathPattern = .ok default :=
  ofSource?_of_ofText? (by decide +kernel) SizeLimit.admits_default

theorem isProper_absolute : absolute.IsProper := by
  simp [absolute, concats, IsProper]

theorem matches_absolute {w : List Char} :
    absolute.Matches none w none ↔ w.head? = some '/' ∧ '\n' ∉ w := by
  have hdots {v : List Char} : (∀ c ∈ v, dot.mem c) ↔ '\n' ∉ v := by
    simp only [mem_dot]
    exact ⟨fun h hv => h _ hv rfl, fun h c hc heq => h (heq ▸ hc)⟩
  constructor
  · rintro ⟨_, w, rfl, ⟨rfl, -⟩, _, v, rfl, ⟨c, rfl, hc⟩, u, _, rfl, hu, _, _, rfl, ⟨rfl, -⟩, rfl⟩
    obtain rfl := CharSet.mem_single.mp hc
    have hu := hdots.mp (matches_repeated_chars.mp hu)
    exact ⟨rfl, by simpa using hu⟩
  · rintro ⟨hhead, hline⟩
    obtain ⟨v, rfl⟩ := List.head?_eq_some_iff.mp hhead
    have hv : '\n' ∉ v := fun h => hline (List.mem_cons_of_mem _ h)
    exact ⟨[], '/' :: v, rfl, ⟨rfl, rfl⟩, ['/'], v, rfl, ⟨'/', rfl, CharSet.mem_single.mpr rfl⟩, v, [],
      (List.append_nil v).symm, matches_repeated_chars.mpr (hdots.mpr hv), [], [], rfl, ⟨rfl, rfl⟩, rfl⟩

/-- The default pattern takes the absolute paths without a line feed. -/
theorem accepts_default {path : String} :
    default.accepts path ↔ path.toList.head? = some '/' ∧ '\n' ∉ path.toList := by
  rw [accepts, default, matchesWithin_whole isProper_absolute, matches_absolute]

end PathPattern

namespace Path

/-- A path that begins with a slash. -/
def IsAbsolute (p : String) : Prop := p.toList.head? = some '/'

theorem isAbsolute_child {p : String} (hp : IsAbsolute p) (name : String) : IsAbsolute (child p name) := by
  have hlead (more : String) : IsAbsolute (p ++ more) := by
    rw [IsAbsolute, String.toList_append, List.head?_append, hp]
    rfl
  rw [child]
  split
  · exact hlead name
  · rw [String.append_assoc]
    exact hlead _

theorem isAbsolute_of_isNormalized {p : String} (h : IsNormalized p) : IsAbsolute p := by
  obtain ⟨ss, -, rfl⟩ := h
  cases ss with
  | nil => rfl
  | cons s ss =>
    rw [IsAbsolute, toList_ofSegments (List.cons_ne_nil s ss)]
    rfl

end Path

namespace Repository

variable {r : Repository} {scope : DigScope} {j : ScanJob}

/-- A job for a value that is stored, under the name of its property at some node. -/
def HasJob (r : Repository) (j : ScanJob) : Prop :=
  ∃ q m name s, r.nodes.get? q = some m ∧ m.get? name = some s ∧
    ∃ place ∈ (s.describe (Path.child q name)).places,
      j = DigScope.jobAt (s.describe (Path.child q name)) place

theorem isAbsolute_of_hasJob (h : r.IsSound) (hj : r.HasJob j) : Path.IsAbsolute j.path := by
  obtain ⟨q, m, name, s, hm, -, place, -, rfl⟩ := hj
  exact Path.isAbsolute_child
    (Path.isAbsolute_of_isNormalized (h.normalized q (KeyMap.mem_keys.mpr ⟨m, hm⟩))) name

/-- The jobs of a dig without limits from the root are those for what is stored, of a type and at a path
that the scope takes. -/
theorem mem_jobs (hlength : scope.maxLength = -1) (hdepth : scope.maxDepth = -1) :
    (j ∈ (r.covered "/" scope.maxDepth).flatMap fun q => scope.jobs (r.propertiesOf q)) ↔
      r.HasJob j ∧ j.propertyType ∈ scope.types ∧ scope.accepts j.path := by
  have hcovered (q : String) : q ∈ r.covered "/" scope.maxDepth ↔ q ∈ r.nodes.keys := by
    rw [mem_covered, hdepth]
    simp [Path.leadsTo]
  have hlimit (length : Nat) : withinLimit length scope.maxLength := by
    rw [hlength]
    exact withinLimit_unlimited length
  constructor
  · intro hj
    obtain ⟨q, hq, hj⟩ := List.mem_flatMap.mp hj
    obtain ⟨c, hc, hj⟩ := List.mem_flatMap.mp hj
    obtain ⟨hc, hwants⟩ := List.mem_filter.mp hc
    obtain ⟨place, hplace, rfl⟩ := List.mem_map.mp hj
    obtain ⟨m, hm⟩ := KeyMap.mem_keys.mp ((hcovered q).mp hq)
    rw [propertiesOf, hm] at hc
    obtain ⟨⟨name, s⟩, he, rfl⟩ := List.mem_map.mp hc
    obtain ⟨htype, hpath⟩ := Bool.and_eq_true_iff.mp hwants
    exact ⟨⟨q, m, name, s, hm, (KeyMap.get?_eq_some_iff m).mpr he, place, (List.mem_filter.mp hplace).1,
      rfl⟩, List.contains_iff_mem.mp htype, hpath⟩
  · rintro ⟨⟨q, m, name, s, hm, hs, place, hplace, rfl⟩, htype, hpath⟩
    have hc : s.describe (Path.child q name) ∈ r.propertiesOf q := by
      rw [propertiesOf, hm]
      exact List.mem_map_of_mem ((KeyMap.get?_eq_some_iff m).mp hs)
    have hwants : scope.wants (s.describe (Path.child q name)) :=
      Bool.and_eq_true_iff.mpr ⟨List.contains_iff_mem.mpr htype, hpath⟩
    exact List.mem_flatMap.mpr ⟨q, (hcovered q).mpr (KeyMap.mem_keys.mpr ⟨m, hm⟩),
      List.mem_flatMap.mpr ⟨_, List.mem_filter.mpr ⟨hc, hwants⟩,
        List.mem_map_of_mem (List.mem_filter.mpr ⟨hplace, hlimit _⟩)⟩⟩

theorem nodup_jobs (h : r.IsSound) {qs : List String} (hqs : ∀ q ∈ qs, q ∈ r.nodes.keys)
    (hnodup : qs.Nodup) : (qs.flatMap fun q => scope.jobs (r.propertiesOf q)).Nodup := by
  have hnames : ((qs.flatMap fun q => scope.jobs (r.propertiesOf q)).map
      fun j => (j.path, j.index)).Nodup := by
    have hoffers : (qs.flatMap fun q => scope.offers (r.propertiesOf q)).Nodup := nodup_offers h hqs hnodup
    refine List.Nodup.sublist ?_ hoffers
    rw [List.map_flatMap]
    exact List.Sublist.flatMap_right _ fun q _ => sublist_offers _
  exact List.Nodup.of_map _ hnames

end Repository

theorem DigRequest.ofSettings_eq [SizeLimit] {settings : TreeDigSettings} {p : PathPattern}
    (hp : PathPattern.ofSource? settings.pathPattern = .ok p) (path : String) :
    ofSettings path settings = .ok
      ⟨path, p, PropertyType.ordered settings.propertyTypes, settings.maxLength, settings.maxDepth⟩ := by
  rw [ofSettings, hp]
  rfl

theorem ChangeDigSettings.validate_default [SizeLimit] : validate {} = .ok () := by
  rw [validate, PathPattern.ofSource?_default]
  rfl

namespace ChangeDigger

theorem start_eq [SizeLimit] {settings : ChangeDigSettings} {p : PathPattern}
    (hp : PathPattern.ofSource? settings.pathPattern = .ok p) (hv : settings.validate = .ok ())
    (hc : settings.capacity ≤ maxChannelCapacity) (hw : settings.workers ≤ maxWorkers) :
    start settings = .ok ⟨settings, p, []⟩ := by
  unfold start
  simp only [hv, hp]
  exact if_pos ⟨hc, hw⟩

theorem candidates_default {d : ChangeDigger} (hd : d.pattern = .default) {path : String}
    (hpath : Path.IsAbsolute path) (added changed : List String) :
    d.candidates path added changed =
      ((unionOfNames added changed).map (Path.child path)).filter ('\n' ∉ ·.toList) := by
  refine List.filter_congr fun p hp => ?_
  obtain ⟨name, -, rfl⟩ := List.mem_map.mp hp
  rw [hd, Bool.eq_iff_iff, PathPattern.accepts_default, decide_eq_true_eq]
  exact and_iff_right (Path.isAbsolute_child hpath name)

theorem waiting_notify {d d' : ChangeDigger} {path : String} {added changed : List String}
    {userId : Option String} {count : Nat} (h : d.notify path added changed userId = .ok (count, d')) :
    count = (d.candidates path added changed).length ∧
      d'.waiting.flatMap (·.candidates) =
        d.waiting.flatMap (·.candidates) ++ d.candidates path added changed := by
  obtain ⟨hnil, hr⟩ | ⟨-, -, hr⟩ | ⟨-, -, hr⟩ := receive_cases d ⟨path, added, changed, userId⟩
  · obtain ⟨rfl, rfl⟩ := Prod.mk.inj (Except.ok.inj (hr.symm.trans h))
    have hnil : d.candidates path added changed = [] := hnil
    rw [hnil]
    exact ⟨rfl, (List.append_nil _).symm⟩
  · obtain ⟨rfl, rfl⟩ := Prod.mk.inj (Except.ok.inj (hr.symm.trans h))
    refine ⟨rfl, ?_⟩
    rw [List.flatMap_append, List.flatMap_singleton]
    rfl
  · cases hr.symm.trans h

theorem exists_notify {d : ChangeDigger} (h : d.waiting.length < d.settings.capacity) (path : String)
    (added changed : List String) (userId : Option String) :
    ∃ count d', d.notify path added changed userId = .ok (count, d') := by
  obtain ⟨-, hr⟩ | ⟨-, -, hr⟩ | ⟨-, hge, -⟩ := receive_cases d ⟨path, added, changed, userId⟩
  · exact ⟨_, _, hr⟩
  · exact ⟨_, _, hr⟩
  · omega

theorem start_default [SizeLimit] : start {} = .ok ⟨{}, .default, []⟩ :=
  start_eq PathPattern.ofSource?_default ChangeDigSettings.validate_default (by decide) (by decide)

end ChangeDigger

namespace Dig

variable {r : Repository}

theorem request_default (h : r.IsSound) (hf : r.failing = []) (s : DigState)
    (ha : s.queue.rejecting = false) :
    let dug := (request ⟨r⟩ ⟨"/", .default, PropertyType.ordered [.binary], -1, -1⟩).run.run s
    (∃ summary, dug.1 = .ok summary) ∧ ∃ jobs, dug.2.queue = s.queue.extended jobs ∧ jobs.Nodup ∧
      ∀ j, j ∈ jobs ↔ r.HasJob j ∧ j.propertyType = .binary ∧ '\n' ∉ j.path.toList := by
  let scope : DigScope := ⟨PathPattern.default.accepts, [.binary], -1, -1⟩
  have hvalid : scope.IsValid := ⟨Int.le_refl _, Int.le_refl _, List.cons_ne_nil _ _⟩
  have hnode : Session.node? ⟨r⟩ "/" = .ok (r.nodeAt "/") := Repository.node?_eq hf h.root
  intro dug
  have hdug : dug = (tree (r.nodeAt "/") scope).run.run s := by
    show (request ⟨r⟩ ⟨"/", .default, [.binary], -1, -1⟩).run.run s = _
    rw [request, hnode]
    rfl
  obtain ⟨report, hoffers, hrun⟩ := tree_run_accepted h hf h.root hvalid s ha
  rw [hdug, hrun]
  refine ⟨⟨_, rfl⟩, report.jobs, rfl, ?_, fun j => ?_⟩
  · rw [hoffers.jobs]
    exact Repository.nodup_jobs h (fun q hq => (Repository.mem_covered.mp hq).1)
      (Repository.nodup_covered _)
  · rw [hoffers.jobs, Repository.mem_jobs rfl rfl, List.mem_singleton, PathPattern.accepts_default]
    refine and_congr_right fun hj => and_congr_right fun _ => and_iff_right ?_
    exact Repository.isAbsolute_of_hasJob h hj

/-- A dig from the root and a change digger, both with the default settings, take exactly what stands at
a path without a line feed: the dig submits one job for each value of a binary property there, and the
change digger keeps these paths of all those that a notification for an absolute path names. -/
theorem defaults_leave_out [SizeLimit] (hr : r.Reachable) (hf : r.failing = []) (s : DigState)
    (ha : s.queue.rejecting = false) :
    (∃ asked, DigRequest.ofSettings "/" {} = .ok asked ∧
      let dug := (request ⟨r⟩ asked).run.run s
      (∃ summary, dug.1 = .ok summary) ∧ ∃ jobs, dug.2.queue = s.queue.extended jobs ∧ jobs.Nodup ∧
        ∀ j, j ∈ jobs ↔ r.HasJob j ∧ j.propertyType = .binary ∧ '\n' ∉ j.path.toList) ∧
    ∃ started, ChangeDigger.start {} = .ok started ∧
      ∀ waiting path added changed userId count d', Path.IsAbsolute path →
        { started with waiting }.notify path added changed userId = .ok (count, d') →
        let kept := ((unionOfNames added changed).map (Path.child path)).filter ('\n' ∉ ·.toList)
        count = kept.length ∧
          d'.waiting.flatMap (·.candidates) = waiting.flatMap (·.candidates) ++ kept := by
  refine ⟨⟨_, DigRequest.ofSettings_eq PathPattern.ofSource?_default "/",
    request_default (Repository.isSound_of_reachable hr) hf s ha⟩, _, ChangeDigger.start_default, ?_⟩
  intro waiting path added changed userId count d' hpath htaken
  have hkept := ChangeDigger.waiting_notify htaken
  rwa [ChangeDigger.candidates_default rfl hpath] at hkept

/-- Two binary properties of a node; a line feed stands in the name of the first. -/
def broken : Repository :=
  (Repository.empty.setProperty "/a/x\ny" ⟨.binary, [.binary [1]], false⟩).setProperty "/a/z"
    ⟨.binary, [.binary [2]], false⟩

theorem reachable_broken : broken.Reachable :=
  (Repository.Reachable.empty.setProperty _ _ (by decide)).setProperty _ _ (by decide)

/-- The job for a value of one of these properties. -/
def binaryAt (path : String) : ScanJob := ⟨path, none, none, .binary⟩

theorem hasJob_broken (name : String) (v : ContentValue)
    (h : (broken.nodes.get? "/a").bind (·.get? name) = some ⟨.binary, [v], false⟩) :
    broken.HasJob (binaryAt (Path.child "/a" name)) := by
  obtain ⟨m, hm, hs⟩ := Option.bind_eq_some_iff.mp h
  exact ⟨"/a", m, name, _, hm, hs, (none, v.length), List.mem_singleton_self _, rfl⟩

section Unbounded

attribute [local instance] SizeLimit.unbounded

/-- The dig has a job for the second property alone, and the change digger told of both keeps the second. -/
theorem defaults_leave_out_broken :
    broken.Reachable ∧ broken.failing = [] ∧
      (∃ asked jobs, DigRequest.ofSettings "/" {} = .ok asked ∧
        ((request ⟨broken⟩ asked).run.run ⟨.empty, [], {}⟩).2.queue = JobQueue.empty.extended jobs ∧
        binaryAt "/a/z" ∈ jobs ∧ binaryAt "/a/x\ny" ∉ jobs) ∧
      ∃ started d', ChangeDigger.start {} = .ok started ∧
        started.notify "/a" ["z"] ["x\ny"] none = .ok (1, d') ∧
        d'.waiting.flatMap (·.candidates) = ["/a/z"] := by
  have hfailing : broken.failing = [] := by decide +kernel
  have hz : broken.HasJob (binaryAt "/a/z") := hasJob_broken "z" (.binary [2]) (by decide +kernel)
  obtain ⟨⟨asked, hasked, -, jobs, hqueue, -, hjobs⟩, started, hstarted, hkept⟩ :=
    defaults_leave_out reachable_broken hfailing ⟨.empty, [], {}⟩ rfl
  obtain rfl : ⟨{}, .default, []⟩ = started := Except.ok.inj (ChangeDigger.start_default.symm.trans hstarted)
  obtain ⟨count, d', htaken⟩ := ChangeDigger.exists_notify (d := ⟨{}, .default, []⟩) (by decide) "/a" ["z"]
    ["x\ny"] none
  have hnames : ((unionOfNames ["z"] ["x\ny"]).map (Path.child "/a")).filter ('\n' ∉ ·.toList) = ["/a/z"] := by
    decide +kernel
  have hkept := hkept [] "/a" ["z"] ["x\ny"] none count d' rfl htaken
  rw [hnames] at hkept
  obtain ⟨rfl, hwaiting⟩ := hkept
  refine ⟨reachable_broken, hfailing, ⟨asked, jobs, hasked, hqueue, ?_, ?_⟩, _, d', hstarted, htaken, hwaiting⟩
  · exact (hjobs _).mpr ⟨hz, rfl, by decide⟩
  · exact fun hmem => ((hjobs _).mp hmem).2.2 (by decide)

/-- No job that the dig submits names the first property, and the change digger told of it keeps nothing. -/
theorem defaults_miss_line_feed :
    broken.Reachable ∧ broken.failing = [] ∧ broken.HasJob (binaryAt "/a/x\ny") ∧
      (∃ asked, DigRequest.ofSettings "/" {} = .ok asked ∧
        ∀ q ∈ ((request ⟨broken⟩ asked).run.run ⟨.empty, [], {}⟩).2.queue.jobs,
          q.attributes.get? "path" ≠ some (.string "/a/x\ny")) ∧
      ∃ started, ChangeDigger.start {} = .ok started ∧
        started.notify "/a" [] ["x\ny"] none = .ok (0, started) := by
  have hfailing : broken.failing = [] := by decide +kernel
  have hx : broken.HasJob (binaryAt "/a/x\ny") :=
    hasJob_broken "x\ny" (.binary [1]) (by decide +kernel)
  obtain ⟨-, jobs, hqueue, -, hjobs⟩ :=
    request_default (Repository.isSound_of_reachable reachable_broken) hfailing ⟨.empty, [], {}⟩ rfl
  refine ⟨reachable_broken, hfailing, hx, ⟨_, DigRequest.ofSettings_eq PathPattern.ofSource?_default "/", ?_⟩,
    _, ChangeDigger.start_default, ?_⟩
  · intro q hq hpath
    have hq : q ∈ (JobQueue.empty.extended jobs).jobs := hqueue ▸ hq
    obtain ⟨j, hj, rfl⟩ := List.mem_map.mp hq
    have hpath := (ScanJob.get?_path_attributes j).symm.trans hpath
    obtain hpath : j.path = "/a/x\ny" := Json.string.inj (Option.some.inj hpath)
    exact ((hjobs j).mp hj).2.2 (by rw [hpath]; decide)
  · have hnone : ChangeDigger.candidates ⟨{}, .default, []⟩ "/a" [] ["x\ny"] = [] := by
      have habsolute : Path.IsAbsolute "/a" := rfl
      have hkept : ChangeDigger.candidates ⟨{}, .default, []⟩ "/a" [] ["x\ny"] = _ :=
        ChangeDigger.candidates_default rfl habsolute _ _
      exact hkept.trans (by decide +kernel)
    obtain ⟨-, hr⟩ | ⟨hne, -⟩ | ⟨hne, -⟩ :=
      ChangeDigger.receive_cases ⟨{}, .default, []⟩ ⟨"/a", [], ["x\ny"], none⟩
    · exact hr
    · exact absurd hnone hne
    · exact absurd hnone hne

end Unbounded

end Dig

end Sentinel
