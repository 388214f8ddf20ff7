import Sentinel.Proofs.Dig.Incremental
import Sentinel.Proofs.Dig.Reconciled
import Sentinel.Proofs.Text.Utf8
/-!
# The candidates of a change dig

What a change digger is told of is looked up name by name, and each name comes to jobs of its own. One
that cannot be looked up costs these and no others, wherever it stands among the names.

1. `taskJobs_eq_ownJobs`: the jobs of a task are the candidates' own jobs, one candidate after the other.
2. `Path.ne_child_of_split?`, `Repository.stored?_failOn`: access that fails at one path fails for no
   property elsewhere.
3. `namedJobs_congr`, `property?_spared`: what names come to is known from their lookups, and access that
   fails at one of them spares the others.
4. `runTask_counts`: the work of a task submits its jobs and counts them.
5. `work_by_candidates`: the work for a notification, and what one name more, one less or one failure
   changes about it.
-/

namespace Sentinel

namespace Path

/-- Up to the name, the path of a child is the same for all children. -/
theorem exists_toList_child (p : String) :
    ∃ lead : List Char, ∀ name, (child p name).toList = lead ++ '/' :: name.toList := by
  by_cases hslash : p.toList.getLast? = some '/'
  · obtain ⟨lead, hlead⟩ := List.getLast?_eq_some_iff.mp hslash
    refine ⟨lead, fun name => ?_⟩
    rw [child, if_pos hslash, String.toList_append, hlead, List.append_assoc]
    rfl
  · refine ⟨p.toList, fun name => ?_⟩
    rw [child, if_neg hslash, String.toList_append, String.toList_append, List.append_assoc]
    rfl

theorem child_inj {p x y : String} (h : child p x = child p y) : x = y := by
  obtain ⟨lead, hlead⟩ := exists_toList_child p
  have htexts : lead ++ '/' :: x.toList = lead ++ '/' :: y.toList := by rw [← hlead, ← hlead, h]
  exact String.toList_injective (List.cons.inj (List.append_cancel_left htexts)).2

theorem ne_child_of_split? {p x y node name : String} (hx : x ≠ "") (hy : '/' ∉ y.toList)
    (h : split? (child p y) = some (node, name)) : node ≠ child p x := by
  obtain ⟨lead, hlead⟩ := exists_toList_child p
  rw [split?, hlead, Text.splitLast_append lead hy] at h
  dsimp only at h
  split at h
  · cases h
  · have hnode : (if lead.isEmpty then "/" else String.ofList lead) = node :=
      (Prod.mk.inj (Option.some.inj h)).1
    intro heq
    -- The other child is longer than the node: behind what leads to it stand a slash and a name.
    have hlonger : (child p x).toList.length = lead.length + (x.toList.length + 1) := by
      rw [hlead, List.length_append, List.length_cons]
    have hname : x.toList.length ≠ 0 := fun hnil => hx (by simpa using hnil)
    rw [← heq, ← hnode] at hlonger
    split at hlonger
    · have hone : ("/" : String).toList.length = 1 := rfl
      omega
    · rw [String.toList_ofList] at hlonger
      omega

end Path

namespace Repository

variable {r : Repository} {p q : String}

theorem checkAccess_failOn_of_ne (h : p ≠ q) : (r.failOn q).checkAccess p = r.checkAccess p := by
  have hcontains : (q :: r.failing).contains p = r.failing.contains p := by
    rw [List.contains_cons, beq_false_of_ne h, Bool.false_or]
  rw [checkAccess, checkAccess, failOn, hcontains]

/-- Access that fails at one path fails for no property that neither stands there nor right below. -/
theorem stored?_failOn (h : p ≠ q) (hnode : ∀ node name, Path.split? p = some (node, name) → node ≠ q) :
    (r.failOn q).stored? p = r.stored? p := by
  rw [stored?, stored?, checkAccess_failOn_of_ne h]
  cases hsplit : Path.split? p with
  | none => rfl
  | some parts =>
    obtain ⟨node, name⟩ := parts
    dsimp only
    rw [checkAccess_failOn_of_ne (hnode node name hsplit)]
    rfl

theorem stored?_failOn_self (r : Repository) (q : String) :
    (r.failOn q).stored? q = .error (.accessFailed q "access denied") := by
  have hcontains : (q :: r.failing).contains q = true := by
    rw [List.contains_cons, beq_self_eq_true, Bool.true_or]
  rw [stored?, checkAccess, failOn, if_pos hcontains]
  rfl

end Repository

namespace Session

theorem path_property? {session : Session} {path : String} {p : ContentProperty}
    (h : session.property? path = .ok p) : p.path = path := by
  rw [property?] at h
  cases hstored : session.repository.stored? path with
  | error e =>
    rw [hstored] at h
    cases h
  | ok stored =>
    rw [hstored] at h
    cases h
    rfl

theorem property?_failOn {r : Repository} {p q : String} (h : p ≠ q)
    (hnode : ∀ node name, Path.split? p = some (node, name) → node ≠ q) :
    property? ⟨r.failOn q⟩ p = property? ⟨r⟩ p := by
  rw [property?, property?, Repository.stored?_failOn h hnode]

theorem property?_failOn_self (r : Repository) (q : String) :
    property? ⟨r.failOn q⟩ q = .error (.accessFailed q "access denied") := by
  rw [property?, Repository.stored?_failOn_self]
  rfl

end Session

namespace ChangeDigger

/-- The jobs of one candidate: one for each value that passes the limit, with its index if the property
has several. There are none where no session opens, where the property cannot be looked up and where it
has another type. -/
def ownJobs (d : ChangeDigger) (r : Repository) (userId : Option String) (path : String) : List ScanJob :=
  let limit := d.settings.maxLength
  let job (index : Option Nat) : ScanJob := ⟨path, index, userId, d.settings.propertyType⟩
  match Session.openOn r with
  | .error _ => []
  | .ok session =>
    match session.property? path with
    | .error _ => []
    | .ok p =>
      if p.propertyType = d.settings.propertyType then
        match p.lengths with
        | .single length => if limit = -1 ∨ length ≤ limit then [job none] else []
        | .multiple lengths =>
          (lengths.zipIdx.filter fun value => limit = -1 ∨ value.1 ≤ limit).map fun value => job (some value.2)
      else []

/-- The jobs of the candidates among some names, one after the other. -/
def namedJobs (d : ChangeDigger) (r : Repository) (n : Notification) (names : List String) : List ScanJob :=
  ((names.map (Path.child n.path)).filter d.pattern.accepts).flatMap (d.ownJobs r n.userId)

variable {d : ChangeDigger} {r r' : Repository} {n : Notification} {names : List String}

theorem withinLimit_eq_decide (length : Nat) (limit : Int) :
    withinLimit length limit = decide (limit = -1 ∨ (length : Int) ≤ limit) := by
  rw [Bool.eq_iff_iff, decide_eq_true_eq]
  exact withinLimit_iff length limit

/-- What is submitted for a property is told place by place, and so are the jobs of a candidate. -/
theorem candidateJobs_eq_ownJobs {session : Session} (h : Session.openOn r = .ok session)
    (userId : Option String) (path : String) :
    candidateJobs d.settings session userId path = d.ownJobs r userId path := by
  rw [candidateJobs, ownJobs, h]
  dsimp only
  cases hp : session.property? path with
  | error e => rfl
  | ok p =>
    dsimp only
    by_cases htype : p.propertyType = d.settings.propertyType
    · rw [if_pos htype, if_pos htype, DigScope.jobsOf, ContentProperty.places, List.map_map]
      have hjob (place : Option Nat × Nat) : (ScanJob.forUser userId ∘ DigScope.jobAt p) place =
          ⟨path, place.1, userId, d.settings.propertyType⟩ := by
        rw [← Session.path_property? hp, ← htype]
        rfl
      cases p.lengths with
      | single length =>
        dsimp only
        rw [List.filter_singleton, withinLimit_eq_decide]
        by_cases hfits : d.settings.maxLength = -1 ∨ (length : Int) ≤ d.settings.maxLength
        · rw [if_pos hfits, decide_eq_true hfits]
          exact congrArg (fun j => [j]) (hjob (none, length))
        · rw [if_neg hfits, decide_eq_false hfits]
          rfl
      | multiple lengths =>
        dsimp only
        rw [List.filter_map, List.map_map]
        have hfits : (fun place : Option Nat × Nat => withinLimit place.2 d.settings.maxLength) ∘
            (fun value : Nat × Nat => (some value.2, value.1)) =
              fun value => decide (d.settings.maxLength = -1 ∨ (value.1 : Int) ≤ d.settings.maxLength) :=
          funext fun value => withinLimit_eq_decide value.1 _
        rw [hfits]
        exact List.map_congr_left fun value _ => hjob (some value.2, value.1)
    · rw [if_neg htype, if_neg htype]

theorem taskJobs_eq_ownJobs (d : ChangeDigger) (r : Repository) (task : DigTask) :
    taskJobs d.settings r task = task.candidates.flatMap (d.ownJobs r task.userId) := by
  rw [taskJobs]
  cases hsession : Session.openOn r with
  | error e =>
    have hnone : ∀ path ∈ task.candidates, d.ownJobs r task.userId path = [] := by
      intro path _
      rw [ownJobs, hsession]
    rw [List.flatMap_eq_nil_iff.mpr hnone]
  | ok session =>
    exact List.flatMap_congr fun path _ => candidateJobs_eq_ownJobs hsession task.userId path

theorem namedJobs_append (xs ys : List String) :
    d.namedJobs r n (xs ++ ys) = d.namedJobs r n xs ++ d.namedJobs r n ys := by
  rw [namedJobs, List.map_append, List.filter_append, List.flatMap_append]
  rfl

/-- A candidate whose lookup comes out as before has the jobs that it had. -/
theorem namedJobs_congr (ha : r'.available = r.available)
    (h : ∀ y ∈ names,
      Session.property? ⟨r'⟩ (Path.child n.path y) = Session.property? ⟨r⟩ (Path.child n.path y)) :
    d.namedJobs r' n names = d.namedJobs r n names := by
  refine List.flatMap_congr fun path hpath => ?_
  obtain ⟨y, hy, rfl⟩ := List.mem_map.mp (List.mem_of_mem_filter hpath)
  cases hopen : r.available with
  | false =>
    have hclosed {r : Repository} (hr : r.available = false) :
        d.ownJobs r n.userId (Path.child n.path y) = [] := by
      rw [ownJobs, Session.openOn, hr]
      rfl
    rw [hclosed hopen, hclosed (ha.trans hopen)]
  | true =>
    have hsession {r : Repository} (hr : r.available = true) : Session.openOn r = .ok ⟨r⟩ := if_pos hr
    rw [ownJobs, ownJobs, hsession hopen, hsession (ha.trans hopen)]
    dsimp only
    rw [h y hy]

theorem namedJobs_of_error {x : String} {e : RepositoryError}
    (h : Session.property? ⟨r⟩ (Path.child n.path x) = .error e) : d.namedJobs r n [x] = [] := by
  refine List.flatMap_eq_nil_iff.mpr fun path hpath => ?_
  obtain rfl := List.mem_singleton.mp (List.mem_of_mem_filter hpath)
  rw [ownJobs, Session.openOn]
  by_cases hopen : r.available = true
  · rw [if_pos hopen]
    dsimp only
    rw [h]
  · rw [if_neg hopen]

/-- The jobs for a notification depend on which names it has, not on how it lists them. -/
theorem taskJobs_eq_namedJobs (hsorted : names.Pairwise fun x y => utf8 x < utf8 y)
    (hnames : ∀ x, x ∈ names ↔ x ∈ n.added ∨ x ∈ n.changed) :
    taskJobs d.settings r (d.taskOf n) = d.namedJobs r n names := by
  have hunion : unionOfNames n.added n.changed = names :=
    unionOfNames_eq (hsorted.imp utf8_lt_iff.mp) hnames
  rw [taskJobs_eq_ownJobs, namedJobs, ← hunion]
  rfl

theorem receive_eq_ok {count : Nat} {d' : ChangeDigger} (h : d.receive n = .ok (count, d')) :
    d' = { d with waiting := d.waiting ++ [d.taskOf n] } ∨ d' = d ∧ (d.taskOf n).candidates = [] := by
  rcases receive_cases d n with ⟨hnone, hn⟩ | ⟨-, -, hn⟩ | ⟨-, -, hn⟩
  · rw [hn] at h
    cases h
    exact .inr ⟨rfl, hnone⟩
  · rw [hn] at h
    cases h
    exact .inl rfl
  · rw [hn] at h
    cases h

/-- The work of a task submits the jobs of the task and says how many there are. -/
theorem runTask_counts (task : DigTask) {s : DigState} (hs : s.queue.rejecting = false) :
    let worked := (runTask d.settings r task).run s
    worked.2.queue = s.queue.extended (taskJobs d.settings r task) ∧
      worked.1.jobsEmitted = (taskJobs d.settings r task).length := by
  intro worked
  have hqueue : worked.2.queue = s.queue.extended (taskJobs d.settings r task) := submits_runTask r task s hs
  have haccepting : s.queue.rejecting = !true := hs
  obtain ⟨report, hreported, -, hcounts, haccounts, -, -⟩ := resolves_runTask d.settings r task s haccepting
  -- The report has some list of jobs; it is as long as this one, since the queue counts both.
  have hsubmitted : s.queue.submitted + report.jobs.length =
      s.queue.submitted + (taskJobs d.settings r task).length :=
    congrArg JobQueue.submitted (hreported.symm.trans hqueue)
  refine ⟨hqueue, ?_⟩
  calc worked.1.jobsEmitted
      = report.counts.jobsEmitted := congrArg DigSummary.jobsEmitted hcounts
    _ = report.jobs.length := haccounts.emitted
    _ = (taskJobs d.settings r task).length := Nat.add_left_cancel hsubmitted

/-- Where access to one of several names fails, the others are looked up as before. -/
theorem property?_spared {x y : String} {others : List String} (hx : x ≠ "") (hfresh : x ∉ others)
    (hslash : ∀ y ∈ others, '/' ∉ y.toList) (hy : y ∈ others) :
    Session.property? ⟨r.failOn (Path.child n.path x)⟩ (Path.child n.path y) =
      Session.property? ⟨r⟩ (Path.child n.path y) := by
  apply Session.property?_failOn
  · intro heq
    rw [Path.child_inj heq] at hy
    exact hfresh hy
  · intro node name hsplit
    exact Path.ne_child_of_split? hx (hslash y hy) hsplit

/-- The work for a notification, name by name in the order of their bytes. A notification that is
accepted waits as one task, unless there is nothing to do for it. The work of the task always comes to
an end with a summary; it submits the jobs of each candidate in turn, and no others. So any one name
counts for its own jobs: without it the others come to what they come to with it, and so they do where
it is looked up with another outcome, in particular where access to it fails. -/
theorem work_by_candidates (d : ChangeDigger) (r : Repository) (n : Notification) (names : List String)
    (hsorted : names.Pairwise fun x y => utf8 x < utf8 y)
    (hnames : ∀ x, x ∈ names ↔ x ∈ n.added ∨ x ∈ n.changed) (s : DigState)
    (hs : s.queue.rejecting = false) :
    let work (r : Repository) (n : Notification) := (runTask d.settings r (d.taskOf n)).run s
    (∀ count d', d.receive n = .ok (count, d') →
      d' = { d with waiting := d.waiting ++ [d.taskOf n] } ∨ d' = d ∧ d.namedJobs r n names = []) ∧
    (work r n).2.queue = s.queue.extended (d.namedJobs r n names) ∧
    (work r n).1.jobsEmitted = (d.namedJobs r n names).length ∧
    ∀ before x after, names = before ++ x :: after →
      let others := before ++ after
      let lookup (r : Repository) (y : String) := Session.property? ⟨r⟩ (Path.child n.path y)
      (work r n).2.queue =
        s.queue.extended (d.namedJobs r n before ++ d.namedJobs r n [x] ++ d.namedJobs r n after) ∧
      (∀ n' : Notification, n'.path = n.path → n'.userId = n.userId →
        (∀ y, y ∈ others ↔ y ∈ n'.added ∨ y ∈ n'.changed) →
        (work r n').2.queue = s.queue.extended (d.namedJobs r n before ++ d.namedJobs r n after)) ∧
      (∀ r' : Repository, r'.available = r.available → (∀ y ∈ others, lookup r' y = lookup r y) →
        (work r' n).2.queue =
          s.queue.extended (d.namedJobs r n before ++ d.namedJobs r' n [x] ++ d.namedJobs r n after)) ∧
      (x ≠ "" → (∀ y ∈ others, '/' ∉ y.toList) →
        (work (r.failOn (Path.child n.path x)) n).2.queue =
          s.queue.extended (d.namedJobs r n before ++ d.namedJobs r n after)) := by
  intro work
  have hjobs (r : Repository) : taskJobs d.settings r (d.taskOf n) = d.namedJobs r n names :=
    taskJobs_eq_namedJobs hsorted hnames
  obtain ⟨hqueue, hcount⟩ := runTask_counts (r := r) (d.taskOf n) hs
  rw [hjobs] at hqueue hcount
  refine ⟨?_, hqueue, hcount, ?_⟩
  · intro count d' haccepted
    rcases receive_eq_ok haccepted with htask | ⟨hsame, hnone⟩
    · exact .inl htask
    · right
      rw [← hjobs]
      exact ⟨hsame, taskJobs_of_candidates_nil hnone⟩
  · intro before x after hsplit others lookup
    have hthree (r : Repository) : d.namedJobs r n names =
        d.namedJobs r n before ++ d.namedJobs r n [x] ++ d.namedJobs r n after := by
      rw [hsplit, ← List.singleton_append, ← List.append_assoc, namedJobs_append, namedJobs_append]
    have hother : ∀ r' : Repository, r'.available = r.available →
        (∀ y ∈ others, lookup r' y = lookup r y) → (work r' n).2.queue =
          s.queue.extended (d.namedJobs r n before ++ d.namedJobs r' n [x] ++ d.namedJobs r n after) := by
      intro r' ha hlookup
      have hbefore : d.namedJobs r' n before = d.namedJobs r n before :=
        namedJobs_congr ha fun y hy => hlookup y (List.mem_append_left _ hy)
      have hafter : d.namedJobs r' n after = d.namedJobs r n after :=
        namedJobs_congr ha fun y hy => hlookup y (List.mem_append_right _ hy)
      rw [(runTask_counts (d.taskOf n) hs).1, hjobs, hthree, hbefore, hafter]
    refine ⟨?_, ?_, hother, ?_⟩
    · rw [← hthree]
      exact hqueue
    · intro n' hpath huser hnames'
      have hothers : others.Pairwise fun x y => utf8 x < utf8 y := by
        rw [hsplit] at hsorted
        exact hsorted.sublist (List.Sublist.append_left (List.sublist_cons_self x after) before)
      have hsame : d.namedJobs r n' others = d.namedJobs r n others := by
        rw [namedJobs, namedJobs, hpath, huser]
      rw [(runTask_counts (d.taskOf n') hs).1, taskJobs_eq_namedJobs hothers hnames', hsame, namedJobs_append]
    · intro hx hslash
      have hnodup : names.Nodup := by
        refine hsorted.imp fun hlt heq => ?_
        rw [heq] at hlt
        exact List.lt_irrefl _ hlt
      rw [hsplit, List.nodup_middle, List.nodup_cons] at hnodup
      have hnone : d.namedJobs (r.failOn (Path.child n.path x)) n [x] = [] :=
        namedJobs_of_error (Session.property?_failOn_self r _)
      have hfailed := hother (r.failOn (Path.child n.path x)) rfl fun y hy =>
        property?_spared hx hnodup.1 hslash hy
      rw [hnone, List.append_nil] at hfailed
      exact hfailed

/-- A node with a text and with a list of texts, one of them long. -/
def tagged : Repository :=
  (Repository.empty.setProperty "/a/gone" ⟨.string, [.text "x"], false⟩).setProperty
    "/a/tags" ⟨.string, [.text "a", .text "long", .text "b"], true⟩

/-- What a commit by Bob reports of the node: a name that it does not have, and the two that it has. -/
def taggedNotification : Notification := ⟨"/a", ["missing", "gone"], ["tags", "gone"], some "bob"⟩

/-- The name that leads nowhere costs nothing, and a text that cannot be read costs its own job only. -/
theorem work_by_candidates_tagged :
    let start : DigState := ⟨.empty, [], {}⟩
    let work (r : Repository) := (runTask shortTexts.settings r (shortTexts.taskOf taggedNotification)).run start
    let tags : List ScanJob :=
      [⟨"/a/tags", some 0, some "bob", .string⟩, ⟨"/a/tags", some 2, some "bob", .string⟩]
    (work tagged).2.queue = JobQueue.empty.extended (⟨"/a/gone", none, some "bob", .string⟩ :: tags) ∧
      (work tagged).1.jobsEmitted = 3 ∧
      (work (tagged.failOn "/a/gone")).2.queue = JobQueue.empty.extended tags := by
  intro start work tags
  have hsorted : ["gone", "missing", "tags"].Pairwise fun x y => utf8 x < utf8 y := by decide +kernel
  have hnames (x : String) : x ∈ ["gone", "missing", "tags"] ↔
      x ∈ taggedNotification.added ∨ x ∈ taggedNotification.changed := by
    simp only [taggedNotification, List.mem_cons, List.not_mem_nil, or_false]
    tauto
  have hgone : shortTexts.namedJobs tagged taggedNotification ["gone"] =
      [⟨"/a/gone", none, some "bob", .string⟩] := by decide +kernel
  have hafter : shortTexts.namedJobs tagged taggedNotification ["missing", "tags"] = tags := by decide +kernel
  have hall : shortTexts.namedJobs tagged taggedNotification ["gone", "missing", "tags"] =
      ⟨"/a/gone", none, some "bob", .string⟩ :: tags := by
    rw [← List.singleton_append, namedJobs_append, hgone, hafter]
    rfl
  obtain ⟨-, hqueue, hcount, hone⟩ :=
    work_by_candidates shortTexts tagged taggedNotification _ hsorted hnames start rfl
  have hfailed := (hone [] "gone" ["missing", "tags"] rfl).2.2.2 (by decide) (by decide +kernel)
  have hpath : Path.child taggedNotification.path "gone" = "/a/gone" := by decide +kernel
  have hnone : shortTexts.namedJobs tagged taggedNotification [] = [] := rfl
  rw [hpath, hnone, List.nil_append, hafter] at hfailed
  rw [hall] at hqueue hcount
  -- Both sides name the same run, and it is not to be evaluated.
  dsimp only [work] at hqueue hcount hfailed ⊢
  exact ⟨hqueue, hcount, hfailed⟩

end ChangeDigger

end Sentinel
