import Sentinel.Proofs.Dig.Encounters
import Sentinel.Proofs.Dig.Refusal
/-!
# Summaries and trails of digs

Whatever ends a dig, its audit events tell of the jobs that it put into the queue, of the values that it
left out, and of nothing else, and its summary counts both. Where the queue accepts jobs, every value of
the properties that a dig is about is one or the other.

1. `Resolves.andThen`: properties that are looked up one after the other.
2. `resolves_runTask`: the work of a task accounts for the properties that it resolves.
3. `digs_reconcile`: both kinds of digs, on every queue.
-/

namespace Sentinel

namespace DigReport

theorem nodesVisited_andThen {a b : DigReport} (ha : a.counts.nodesVisited = 0)
    (hb : b.counts.nodesVisited = 0) : (a.andThen b).counts.nodesVisited = 0 := by
  rw [andThen]
  split
  · rw [DigSummary.nodesVisited_add, ha, hb]
  · exact ha

theorem nodesVisited_ofProperty (accepting : Bool) (p : ContentProperty) (limit : Int)
    (userId : Option String) : (ofProperty accepting p limit userId).counts.nodesVisited = 0 := by
  rw [ofProperty]
  induction p.places with
  | nil => rfl
  | cons place places ih =>
    refine nodesVisited_andThen ?_ ih
    simp only [ofValue]
    split
    · rfl
    · split <;> rfl

end DigReport

namespace ChangeDigger

variable {accepting : Bool} {limit : Int} {userId : Option String}
variable {settings : ChangeDigSettings} {session : Session} {x y : StateM DigState Unit}
variable {ps qs : List ContentProperty}

/-- The property at a path, if it can be read and has the type that is wanted. -/
def resolve? (settings : ChangeDigSettings) (session : Session) (path : String) : Option ContentProperty :=
  match session.property? path with
  | .error _ => none
  | .ok p => if p.propertyType = settings.propertyType then some p else none

/-- The properties that the work of a task resolves. -/
def resolved (settings : ChangeDigSettings) (r : Repository) (task : DigTask) : List ContentProperty :=
  match Session.openOn r with
  | .error _ => []
  | .ok session => task.candidates.filterMap (resolve? settings session)

/-- The values of resolved properties that are weighed: a refused job costs the rest of its property. -/
def weighed (accepting : Bool) (limit : Int) (ps : List ContentProperty) : List Weighed :=
  ps.flatMap fun p => Dig.reached accepting limit (p.weighed.map .ok)

/-- A step accounts for the values of properties that it resolves. -/
def Resolves (accepting : Bool) (limit : Int) (userId : Option String) (x : StateM DigState Unit)
    (ps : List ContentProperty) : Prop :=
  ∀ s : DigState, s.queue.rejecting = !accepting → ∃ a : DigReport, (x.run s).2 = a.after s ∧
    a.error = none ∧ a.Accounts limit userId (weighed accepting limit ps) ∧
    a.counts.nodesVisited = 0 ∧ a.counts.propertiesResolved = ps.length

theorem Resolves.nothing : Resolves accepting limit userId (pure ()) [] :=
  fun s _ => ⟨.nothing, (DigReport.after_nothing s).symm, rfl, .quiet ⟨rfl, rfl⟩, rfl, rfl⟩

theorem Resolves.andThen (hx : Resolves accepting limit userId x ps)
    (hy : Resolves accepting limit userId y qs) :
    Resolves accepting limit userId (x >>= fun _ => y) (ps ++ qs) := by
  intro s hs
  obtain ⟨a, ha, hok, haccounts, hnodes, hresolved⟩ := hx s hs
  obtain ⟨b, hb, hok', haccounts', hnodes', hresolved'⟩ := hy (a.after s) hs
  have h : a.andThen b = ⟨a.jobs ++ b.jobs, a.events ++ b.events, a.counts + b.counts, b.error⟩ := by
    rw [DigReport.andThen, hok]
  refine ⟨a.andThen b, ?_, ?_, ?_, DigReport.nodesVisited_andThen hnodes hnodes', ?_⟩
  · show (y.run (x.run s).2).2 = _
    rw [ha, hb, DigReport.after_andThen hok]
  · rw [h, hok']
  · rw [weighed, List.flatMap_append]
    exact haccounts.andThen haccounts' hok
  · rw [h, List.length_append]
    show a.counts.propertiesResolved + b.counts.propertiesResolved = _
    rw [hresolved, hresolved']

theorem resolves_digCandidate (path : String) :
    Resolves accepting settings.maxLength userId (digCandidate settings session userId path)
      (resolve? settings session path).toList := by
  rw [digCandidate, resolve?]
  cases session.property? path with
  | error e => exact Resolves.nothing
  | ok p =>
    by_cases hp : p.propertyType = settings.propertyType
    · simp only [if_pos hp, Option.toList_some]
      intro s hs
      -- One more property is resolved, and then its values are weighed; their error is left aside.
      let report := DigReport.ofProperty accepting p settings.maxLength userId
      have hruns : DigReport.Runs accepting settings.maxLength userId report (p.weighed.map .ok) :=
        DigReport.runs_ofProperty accepting settings.maxLength userId p
      have hnodes : report.counts.nodesVisited = 0 :=
        DigReport.nodesVisited_ofProperty accepting p settings.maxLength userId
      have hreports : Dig.Reports accepting (Dig.emit p settings.maxLength userId) report :=
        Dig.reports_emitPlaces p settings.maxLength userId p.places
      let resolving : DigReport := ⟨[], [], { propertiesResolved := 1 }, none⟩
      refine ⟨resolving.andThen { report with error := none }, ?_, rfl, ?_, ?_, ?_⟩
      · have hcount : resolving.after s =
            { s with summary.propertiesResolved := s.summary.propertiesResolved + 1 } := by
          simp only [resolving, DigReport.after, DigReport.queueAfter, List.map_nil, List.append_nil]
          rfl
        rw [DigReport.after_andThen rfl, hcount]
        exact congrArg Prod.snd
          (hreports { s with summary.propertiesResolved := s.summary.propertiesResolved + 1 } hs)
      · have hquiet : resolving.Accounts settings.maxLength userId [] := .quiet ⟨rfl, rfl⟩
        have hvalues : DigReport.Accounts settings.maxLength userId { report with error := none }
            (Dig.reached accepting settings.maxLength (p.weighed.map .ok)) :=
          ⟨hruns.accounts.tallies, hruns.accounts.emitted, hruns.accounts.skipped⟩
        rw [weighed, List.flatMap_singleton]
        exact hquiet.andThen hvalues rfl
      · exact DigReport.nodesVisited_andThen rfl hnodes
      · show 1 + report.counts.propertiesResolved = 1
        rw [hruns.resolved]
    · simp only [if_neg hp]
      exact Resolves.nothing

theorem resolves_digCandidates (paths : List String) :
    Resolves accepting settings.maxLength userId (digCandidates settings session userId paths)
      (paths.filterMap (resolve? settings session)) := by
  induction paths with
  | nil => exact Resolves.nothing
  | cons path paths ih =>
    have hcons : (path :: paths).filterMap (resolve? settings session) =
        (resolve? settings session path).toList ++ paths.filterMap (resolve? settings session) := by
      rw [List.filterMap_cons]
      cases resolve? settings session path <;> rfl
    rw [digCandidates, hcons]
    exact (resolves_digCandidate path).andThen ih

theorem length_weighed_of_accepting (limit : Int) (ps : List ContentProperty) :
    (weighed true limit ps).length = (ps.flatMap (·.places)).length := by
  have hall : weighed true limit ps = ps.flatMap ContentProperty.weighed :=
    List.flatMap_congr fun p _ => Dig.reached_of_accepting limit p.weighed
  rw [hall, List.length_flatMap, List.length_flatMap]
  simp only [ContentProperty.length_weighed]

/-- The work of a task accounts for the properties that it resolves, and it returns its counts. -/
theorem resolves_runTask (settings : ChangeDigSettings) (r : Repository) (task : DigTask) (s : DigState)
    (hs : s.queue.rejecting = !accepting) :
    ∃ a : DigReport, ((runTask settings r task).run s).2.queue = s.queue.extended a.jobs ∧
      ((runTask settings r task).run s).2.trail = s.trail ++ a.events ∧
      ((runTask settings r task).run s).1 = a.counts ∧
      a.Accounts settings.maxLength task.userId
        (weighed accepting settings.maxLength (resolved settings r task)) ∧
      a.counts.nodesVisited = 0 ∧ a.counts.propertiesResolved = (resolved settings r task).length := by
  rw [runTask, resolved]
  cases Session.openOn r with
  | error e =>
    exact ⟨.nothing, (s.queue.extended_nil).symm, (List.append_nil _).symm, rfl, .quiet ⟨rfl, rfl⟩, rfl, rfl⟩
  | ok session =>
    have hresolves : Resolves accepting settings.maxLength task.userId
        (digCandidates settings session task.userId task.candidates)
        (task.candidates.filterMap (resolve? settings session)) := resolves_digCandidates task.candidates
    obtain ⟨a, hrun, -, haccounts, hnodes, hresolved⟩ := hresolves { s with summary := {} } hs
    have hcounts : (a.after { s with summary := {} }).summary = a.counts := DigSummary.none_add _
    refine ⟨a, ?_, ?_, ?_, haccounts, hnodes, hresolved⟩
    · exact congrArg DigState.queue hrun
    · exact congrArg DigState.trail hrun
    · exact (congrArg DigState.summary hrun).trans hcounts

end ChangeDigger

/-- The dig at an aim accounts for the values that it reaches, whether it ends in an error or not, and
what it returns are its counts. -/
theorem DigCall.accounts_at (aim : DigCall.Aim) (s : DigState) :
    let result := (Dig.tree aim.root aim.scope).run.run s
    let sights := Dig.spread (Dig.sights aim.scope aim.root.depth aim.root)
    ∃ a : DigReport, result.2.queue = s.queue.extended a.jobs ∧ result.2.trail = s.trail ++ a.events ∧
      a.Runs (!s.queue.rejecting) aim.scope.maxLength none sights ∧
      ∀ summary, result.1 = .ok summary ↔ summary = a.counts ∧ a.error = none := by
  intro result sights
  let report := DigReport.ofTree (!s.queue.rejecting) aim.scope aim.root.depth aim.root
  have hrun : result = (report.outcome.map fun _ => report.counts, report.after { s with summary := {} }) :=
    Dig.tree_run aim.root aim.isValid s
  refine ⟨report, ?_, ?_, DigReport.runs_ofTree aim.root.depth aim.root, ?_⟩
  · rw [hrun]
    rfl
  · rw [hrun]
    rfl
  · intro summary
    rw [hrun]
    show report.outcome.map _ = _ ↔ _
    rw [DigReport.outcome]
    cases report.error with
    | none => exact ⟨fun hok => ⟨(Except.ok.inj hok).symm, rfl⟩, fun h => congrArg Except.ok h.1.symm⟩
    | some e => exact iff_of_false (fun hok => (by cases hok)) (fun h => (by cases h.2))

/-- The summaries of digs and the audit trail go with what digs put into the queue.

A tree dig that is refused changes nothing. Any other puts some jobs into the queue and some events on
the trail, which tally with the values that it reaches before it ends. It returns a summary where nothing
ends it, and this counts the jobs and the skipped values, together all values of the properties that it
looked at, and no resolved property.

The work of a task tallies with the values of the properties that it resolves. Its summary counts the
jobs, the skipped values and these properties, and no node; where the queue accepts jobs, all values of
the properties are one or the other. -/
theorem digs_reconcile [SizeLimit] (s : DigState) :
    (∀ call : DigCall,
      let result := call.run.run.run s
      match call.aim with
      | .error e => result = (.error e, s)
      | .ok aim =>
        let sights := Dig.sights aim.scope aim.root.depth aim.root
        let weighed := Dig.reached (!s.queue.rejecting) aim.scope.maxLength (Dig.spread sights)
        ∃ jobs events, result.2.queue = s.queue.extended jobs ∧ result.2.trail = s.trail ++ events ∧
          Dig.Tallies aim.scope.maxLength none weighed jobs events ∧
          ((∃ summary, result.1 = .ok summary) ↔
            Dig.Passed (!s.queue.rejecting) aim.scope.maxLength (Dig.spread sights)) ∧
          ∀ summary, result.1 = .ok summary →
            summary.jobsEmitted = jobs.length ∧
            summary.valuesSkipped = (events.filterMap AuditEvent.skipped?).length ∧
            summary.jobsEmitted + summary.valuesSkipped =
              ((sights.filterMap Except.toOption).flatMap (·.places)).length ∧
            summary.propertiesResolved = 0) ∧
    ∀ (settings : ChangeDigSettings) (r : Repository) (task : DigTask),
      let result := (ChangeDigger.runTask settings r task).run s
      let resolved := ChangeDigger.resolved settings r task
      let weighed := ChangeDigger.weighed (!s.queue.rejecting) settings.maxLength resolved
      ∃ jobs events, result.2.queue = s.queue.extended jobs ∧ result.2.trail = s.trail ++ events ∧
        Dig.Tallies settings.maxLength task.userId weighed jobs events ∧
        result.1.jobsEmitted = jobs.length ∧
        result.1.valuesSkipped = (events.filterMap AuditEvent.skipped?).length ∧
        (s.queue.rejecting = false →
          result.1.jobsEmitted + result.1.valuesSkipped = (resolved.flatMap (·.places)).length) ∧
        result.1.nodesVisited = 0 ∧
        result.1.propertiesResolved = resolved.length := by
  refine ⟨?_, ?_⟩
  · intro call result
    have hresult : result = (DigCall.digAt call.aim).run.run s := by rw [← DigCall.run_eq]
    cases haim : call.aim with
    | error e =>
      rw [haim] at hresult
      exact hresult
    | ok aim =>
      rw [haim] at hresult
      dsimp only
      obtain ⟨a, hqueue, htrail, hruns, hsummary⟩ := DigCall.accounts_at aim s
      have hdig : (Dig.tree aim.root aim.scope).run.run s = result := hresult.symm
      rw [hdig] at hqueue htrail hsummary
      have hends : (∃ summary, result.1 = .ok summary) ↔ a.error = none :=
        ⟨fun ⟨summary, hok⟩ => ((hsummary summary).mp hok).2, fun hdone => ⟨_, (hsummary _).mpr ⟨rfl, hdone⟩⟩⟩
      refine ⟨a.jobs, a.events, hqueue, htrail, hruns.accounts.tallies, hends.trans hruns.error, ?_⟩
      intro summary hok
      obtain ⟨rfl, hdone⟩ := (hsummary summary).mp hok
      refine ⟨hruns.accounts.emitted, hruns.accounts.skipped, ?_, hruns.resolved⟩
      rw [hruns.accounts.emitted, hruns.accounts.skipped, hruns.accounts.tallies.total]
      exact Dig.length_reached_spread (hruns.error.mp hdone)
  · intro settings r task result resolved weighed
    -- A refused job is one property's loss, so that there is no error to account for.
    have haccepting : s.queue.rejecting = !(!s.queue.rejecting) := (Bool.not_not _).symm
    obtain ⟨a, hqueue, htrail, hsummary, haccounts, hnodes, hresolved⟩ :=
      ChangeDigger.resolves_runTask settings r task s haccepting
    refine ⟨a.jobs, a.events, hqueue, htrail, haccounts.tallies, ?_⟩
    have hcounts : result.1 = a.counts := hsummary
    rw [hcounts]
    refine ⟨haccounts.emitted, haccounts.skipped, ?_, hnodes, hresolved⟩
    intro hs
    have hweighed := haccounts.tallies.total
    rw [hs, Bool.not_false, ChangeDigger.length_weighed_of_accepting] at hweighed
    rw [haccounts.emitted, haccounts.skipped, hweighed]

/-- Three values of which the one in the middle has more than two bytes. -/
def shelf : Repository :=
  Repository.empty.setProperty "/shelf/pages"
    ⟨.binary, [.binary [1], .binary [2, 3, 4], .binary [5, 6]], true⟩

section Unbounded

attribute [local instance] SizeLimit.unbounded

/-- Both kinds of digs for values of at most two bytes submit two jobs for the three values. -/
theorem digs_reconcile_shelf :
    let s : DigState := ⟨.empty, [], {}⟩
    let root : ContentNode := .mk "/shelf" 1 (.ok [⟨"/shelf/pages", .binary, .multiple [1, 3, 2]⟩]) (.ok [])
    let scope : DigScope := { DigScope.binaries (-1) with maxLength := 2 }
    let task : DigTask := ⟨["/shelf/pages", "/shelf/cover"], some "eva"⟩
    (∃ summary jobs, ((DigCall.fromNode root scope).run.run.run s).1 = .ok summary ∧
      ((DigCall.fromNode root scope).run.run.run s).2.queue = s.queue.extended jobs ∧
      summary.jobsEmitted = jobs.length ∧ jobs.length = 2 ∧
      summary.jobsEmitted + summary.valuesSkipped = 3) ∧
    s.queue.rejecting = false ∧
    let result := (ChangeDigger.runTask { maxLength := 2 } shelf task).run s
    ∃ jobs, result.2.queue = s.queue.extended jobs ∧
      jobs = [⟨"/shelf/pages", some 0, some "eva", .binary⟩, ⟨"/shelf/pages", some 2, some "eva", .binary⟩] ∧
      result.1.jobsEmitted + result.1.valuesSkipped = 3 ∧ result.1.propertiesResolved = 1 := by
  intro s root scope task
  have hs : scope.IsValid := ⟨by decide, by decide, by decide⟩
  obtain ⟨htree, hchange⟩ := digs_reconcile s
  have haim : (DigCall.fromNode root scope).aim = .ok ⟨root, scope, hs⟩ := DigCall.aimFrom_of_isValid root hs
  have hroot := htree (.fromNode root scope)
  simp only [haim] at hroot
  obtain ⟨jobs, events, hqueue, -, -, -, hsummary⟩ := hroot
  have hok : ((DigCall.fromNode root scope).run.run.run s).1 =
      .ok { nodesVisited := 1, jobsEmitted := 2, valuesSkipped := 1 } :=
    congrArg Prod.fst (Dig.tree_run root hs s)
  obtain ⟨hjobs, -, htotal, -⟩ := hsummary _ hok
  obtain ⟨jobs', events', hqueue', -, htallies', -, -, htotal', -, hresolved⟩ :=
    hchange { maxLength := 2 } shelf task
  exact ⟨⟨_, jobs, hok, hqueue, hjobs, hjobs.symm, htotal⟩, rfl, jobs', hqueue', htallies'.jobs, htotal' rfl,
    hresolved⟩

end Unbounded

end Sentinel
