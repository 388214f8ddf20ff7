import Sentinel.Proofs.Handlers.Rounds
import Sentinel.Proofs.Outcome
/-!
# Handlers by themselves

A dispatch gives a result to every handler, in the order of attachment, whatever becomes of the others. One
handler more or less, which does what it wants to a state of its own, changes neither what the others find
nor what they do, nor what becomes of the job.

1. `Dispatcher.sparesOthers_dispatch`: one handler more in a dispatch.
2. `Runner.process_fans`, `Runner.sparesOthers_process`: what a run of a job owes to its handlers, and one
   handler more in it.
3. `Desk.run_fans_out`: all that holds of the rounds of a dispatcher.
-/

namespace Sentinel

variable {σ ρ : Type}

namespace Handler

/-- What a handler makes of a part of the state depends on this part alone. -/
def Sees (get : σ → ρ) (g : Handler σ) : Prop :=
  ∀ r s t t', get t = get t' → ((g.handle r s).run.run t).1 = ((g.handle r s).run.run t').1 ∧
    get ((g.handle r s).run.run t).2 = get ((g.handle r s).run.run t').2

/-- A handler leaves a part of the state as it is, whatever else it does. -/
def Spares (get : σ → ρ) (g : Handler σ) : Prop := ∀ r s t, get ((g.handle r s).run.run t).2 = get t

theorem handle_over {τ : Type} (get : τ → σ) (set : σ → τ → τ) (g : Handler σ) (r : ScanResult)
    (s : Subject) : (g.over get set).handle r s = onPart get set (g.handle r s) := by
  rw [handle, handle]
  cases s.index <;> rfl

theorem sees_over {τ : Type} {get : τ → σ} {set : σ → τ → τ} (hget : ∀ s t, get (set s t) = s)
    (g : Handler σ) : (g.over get set).Sees get := by
  intro r s t t' ht
  rw [handle_over]
  show ((g.handle r s).run.run (get t)).1 = ((g.handle r s).run.run (get t')).1 ∧
    get (set ((g.handle r s).run.run (get t)).2 t) = get (set ((g.handle r s).run.run (get t')).2 t')
  rw [hget, hget, ht]
  exact ⟨rfl, rfl⟩

theorem spares_over {τ : Type} {get : τ → σ} {set : σ → τ → τ} {other : τ → ρ}
    (hother : ∀ s t, other (set s t) = other t) (g : Handler σ) : (g.over get set).Spares other := by
  intro r s t
  rw [handle_over]
  exact hother _ t

end Handler

/-- A list, and the same with at most one element more, which is of some kind. -/
def OneMore {α : Type} (p : α → Prop) (xs ys : List α) : Prop :=
  ∃ front back, ∃ extra : Option α,
    xs = front ++ back ∧ ys = front ++ extra.toList ++ back ∧ ∀ a ∈ extra, p a

/-- A handler that is called, with what it finds, and what comes of the call. -/
structure Visit (σ ρ : Type) where
  handler : Handler σ
  found : ρ
  outcome : Except (Fault HandlerError) Unit

/-- The visit with what the handler finds in a part of the state. -/
def Visit.part (get : σ → ρ) (v : Visit σ σ) : Visit σ ρ := ⟨v.handler, get v.found, v.outcome⟩

namespace Dispatcher

variable {get : σ → ρ} {r : ScanResult} {s : Subject} {t t' : σ} {h : Handler σ} {xs ys : List (Handler σ)}

/-- The visits to handlers that are called one after the other. -/
def visitEach (r : ScanResult) (s : Subject) : List (Handler σ) → σ → List (Visit σ σ)
  | [], _ => []
  | h :: hs, t =>
    let (outcome, t') := (h.handle r s).run.run t
    ⟨h, t, outcome⟩ :: visitEach r s hs t'

/-- The visits of a dispatch. -/
def visits (d : Dispatcher σ) (r : ScanResult) (s : Subject) (t : σ) : List (Visit σ σ) :=
  visitEach r s (d.handlers.map (·.2)) t

theorem callEach_append (xs ys : List (Handler σ)) (t : σ) :
    let front := (callEach r s xs).run t
    let back := (callEach r s ys).run front.2
    (callEach r s (xs ++ ys)).run t = (front.1 ++ back.1, back.2) := by
  induction xs generalizing t with
  | nil => rfl
  | cons x xs ih =>
    let called := (x.handle r s).run.run t
    show (let rest := (callEach r s (xs ++ ys)).run called.2
      ((failureOf x called.1).toList ++ rest.1, rest.2)) = _
    rw [ih]
    exact congrArg (Prod.mk · _) (List.append_assoc _ _ _).symm

theorem visitEach_append (xs ys : List (Handler σ)) (t : σ) :
    visitEach r s (xs ++ ys) t =
      visitEach r s xs t ++ visitEach r s ys ((callEach r s xs).run t).2 := by
  induction xs generalizing t with
  | nil => rfl
  | cons x xs ih => exact congrArg (List.cons _) (ih _)

theorem length_visitEach (xs : List (Handler σ)) (t : σ) : (visitEach r s xs t).length = xs.length := by
  induction xs generalizing t with
  | nil => rfl
  | cons x xs ih => exact congrArg (· + 1) (ih _)

theorem handler_of_failureOf {outcome : Except (Fault HandlerError) Unit} {f : HandlerFailure}
    (h' : failureOf h outcome = some f) : f.handler = h.name := by
  rcases outcome with (fault | fault) | _ <;> cases h' <;> rfl

/-- Handlers do the same where they find the same. -/
theorem callEach_congr (hxs : ∀ g ∈ xs, g.Sees get) (ht : get t = get t') :
    ((callEach r s xs).run t).1 = ((callEach r s xs).run t').1 ∧
      get ((callEach r s xs).run t).2 = get ((callEach r s xs).run t').2 ∧
      (visitEach r s xs t).map (Visit.part get) = (visitEach r s xs t').map (Visit.part get) := by
  induction xs generalizing t t' with
  | nil => exact ⟨rfl, ht, rfl⟩
  | cons x xs ih =>
    obtain ⟨houtcome, hafter⟩ := hxs x List.mem_cons_self r s t t' ht
    obtain ⟨hfailures, hstate, hvisits⟩ := ih (fun g hg => hxs g (List.mem_cons_of_mem x hg)) hafter
    refine ⟨congrArg₂ (fun o fs => (failureOf x o).toList ++ fs) houtcome hfailures, hstate, ?_⟩
    show Visit.mk x (get t) ((x.handle r s).run.run t).1 :: _ =
      Visit.mk x (get t') ((x.handle r s).run.run t').1 :: _
    rw [ht, houtcome]
    exact congrArg (List.cons _) hvisits

/-- One handler more, somewhere among the others: they find the same and do the same, and their failures
stay in their order. -/
theorem callEach_insert (hxs : ∀ g ∈ xs, g.Sees get) (hys : ∀ g ∈ ys, g.Sees get) (hh : h.Spares get)
    (ht : get t = get t') :
    let ran := (callEach r s (xs ++ ys)).run t
    let ran' := (callEach r s (xs ++ h :: ys)).run t'
    get ran'.2 = get ran.2 ∧
      ((visitEach r s (xs ++ h :: ys) t').eraseIdx xs.length).map (Visit.part get) =
        (visitEach r s (xs ++ ys) t).map (Visit.part get) ∧
      OneMore (·.handler = h.name) ran.1 ran'.1 := by
  intro ran ran'
  obtain ⟨hfront, hstate, hvisits⟩ := callEach_congr (r := r) (s := s) hxs ht
  -- Those behind the new handler find what it left, which is to them what they find without it.
  let called := (h.handle r s).run.run ((callEach r s xs).run t').2
  have hcalled : get ((callEach r s xs).run t).2 = get called.2 := hstate.trans (hh r s _).symm
  obtain ⟨hback, hstate', hvisits'⟩ := callEach_congr (r := r) (s := s) hys hcalled
  have hran : ran = _ := callEach_append xs ys t
  have hran' : ran' = _ := callEach_append xs (h :: ys) t'
  rw [hran, hran']
  refine ⟨hstate'.symm, ?_, _, _, failureOf h called.1, rfl, ?_, fun f hf => handler_of_failureOf hf⟩
  · rw [visitEach_append, visitEach_append, ← length_visitEach (r := r) (s := s) xs t',
      List.eraseIdx_append_of_length_le (Nat.le_refl _), Nat.sub_self, List.map_append, List.map_append,
      hvisits]
    exact congrArg _ hvisits'.symm
  · rw [hfront, hback, List.append_assoc]
    rfl

/-- A dispatcher has the handlers of another one in their order, and one more in between. -/
def HasMore (d d' : Dispatcher σ) (i : Nat) (h : Handler σ) : Prop :=
  ∃ xs ys, xs.length = i ∧ d.handlers.map (·.2) = xs ++ ys ∧ d'.handlers.map (·.2) = xs ++ h :: ys

variable {d d' : Dispatcher σ} {i : Nat}

/-- A dispatch with one handler more, beside the one without it. The part of the state that the others see
is the same in the end; they are called in the same order, find the same and do the same; and one call
more is counted, and no failure more but that of the new handler. -/
structure SparesOthers (get : σ → ρ) (d d' : Dispatcher σ) (i : Nat) (h : Handler σ) (r : ScanResult)
    (s : Subject) (t t' : σ) : Prop where
  sinks : get ((d'.dispatch r s).run t').2 = get ((d.dispatch r s).run t).2
  visits : ((d'.visits r s t').eraseIdx i).map (Visit.part get) = (d.visits r s t).map (Visit.part get)
  handled : ((d'.dispatch r s).run t').1.handled = ((d.dispatch r s).run t).1.handled + 1
  failures : OneMore (·.handler = h.name) ((d.dispatch r s).run t).1.failures
    ((d'.dispatch r s).run t').1.failures

theorem sparesOthers_dispatch (hmore : d.HasMore d' i h) (hothers : ∀ a ∈ d.handlers, a.2.Sees get)
    (hh : h.Spares get) (ht : get t = get t') : SparesOthers get d d' i h r s t t' := by
  obtain ⟨xs, ys, rfl, hd, hd'⟩ := hmore
  have hsees (g : Handler σ) (hg : g ∈ xs ++ ys) : g.Sees get := by
    rw [← hd] at hg
    obtain ⟨a, ha, rfl⟩ := List.mem_map.mp hg
    exact hothers a ha
  have hinsert := callEach_insert (r := r) (s := s)
    (fun g hg => hsees g (List.mem_append_left ys hg))
    (fun g hg => hsees g (List.mem_append_right xs hg)) hh ht
  rw [← hd, ← hd'] at hinsert
  obtain ⟨hstate, hvisits, hfailures⟩ := hinsert
  have hlength (d : Dispatcher σ) : d.handlers.length = (d.handlers.map (·.2)).length :=
    (List.length_map _).symm
  refine ⟨hstate, hvisits, ?_, hfailures⟩
  show d'.handlers.length = d.handlers.length + 1
  rw [hlength d', hlength d, hd, hd', List.length_append, List.length_append, List.length_cons,
    Nat.add_assoc]

end Dispatcher

namespace Runner

variable {get : σ → ρ} {r : Repository} {j : ScanJob}

/-- What comes of a job is settled before its handlers are called: it fails and none is called, or they
are called with the result, and whatever they do, the job succeeds. -/
theorem process_fans (r : Repository) (j : ScanJob) (e : Engine) :
    (∃ error e', ∀ (σ : Type) (d : Dispatcher σ) (s : RunState σ), s.engine = e →
      (process r d j).run.run s = (.error error, { s with engine := e' })) ∨
    ∃ result subject, ∀ (σ : Type) (d : Dispatcher σ) (s : RunState σ), s.engine = e →
      (process r d j).run.run s = (.ok result, afterCall d s (result, subject)) := by
  rcases j.leadsTo_or_obstacle r with ⟨p, v, h⟩ | ⟨error, h⟩
  · cases hf : e.failing with
    | false =>
      refine .inr ⟨e.resultFor v.bytes, j.subject p.propertyType, fun σ d s hs => ?_⟩
      subst hs
      exact process_run (openValue_of_leadsTo h) hf
    | true =>
      let error : DispatchError := .scanEngine (.engineUnavailable e.name "simulated failure")
      refine .inl ⟨error, e.afterScan, fun σ d s hs => ?_⟩
      subst hs
      exact process_of_failing h hf
  · refine .inl ⟨error, e, fun σ d s hs => ?_⟩
    subst hs
    exact process_of_obstacle h

/-- What is answered for a job does not depend on the handlers. -/
theorem consume_fans {τ : Type} (r : Repository) (j : ScanJob) (d : Dispatcher σ) (d' : Dispatcher τ)
    {s : RunState σ} {s' : RunState τ} (hs : s'.engine = s.engine) :
    ((consume r d' j).run s').1 = ((consume r d j).run s).1 := by
  rcases process_fans r j s.engine with ⟨error, e', hrun⟩ | ⟨result, subject, hrun⟩
  · rw [consume_of_process_error (hrun σ d s rfl), consume_of_process_error (hrun τ d' s' hs)]
  · rw [consume_of_process_ok (hrun σ d s rfl), consume_of_process_ok (hrun τ d' s' hs)]

/-- A run of a job with one handler more, beside the one without it. The answer is the same, as is what
the engine was asked and the part of the state that the others see; and nothing more is recorded but a
failure of the new handler. -/
structure SparesOthers (get : σ → ρ) (h : Handler σ)
    (ran ran' : Except DispatchError ScanResult × RunState σ) : Prop where
  answer : ran'.1 = ran.1
  engine : ran'.2.engine = ran.2.engine
  sinks : get ran'.2.sinks = get ran.2.sinks
  trail : OneMore (fun e => ∃ path index message, e = .handlerFailed h.name path index message)
    ran.2.trail ran'.2.trail

theorem sparesOthers_process {d d' : Dispatcher σ} {i : Nat} {h : Handler σ} {s s' : RunState σ}
    (hmore : d.HasMore d' i h) (hothers : ∀ a ∈ d.handlers, a.2.Sees get) (hh : h.Spares get)
    (hengine : s'.engine = s.engine) (htrail : s'.trail = s.trail) (hsinks : get s.sinks = get s'.sinks) :
    SparesOthers get h ((process r d j).run.run s) ((process r d' j).run.run s') := by
  -- Without the handlers it is settled whether there is a result, and which one they are called with.
  rcases process_fans r j s.engine with ⟨error, e', hrun⟩ | ⟨result, subject, hrun⟩
  · rw [hrun σ d s rfl, hrun σ d' s' hengine]
    exact ⟨rfl, rfl, hsinks.symm, s.trail, [], none, (List.append_nil _).symm, by simp [htrail], by simp⟩
  · rw [hrun σ d s rfl, hrun σ d' s' hengine]
    have hspares := Dispatcher.sparesOthers_dispatch (r := result) (s := subject) hmore hothers hh hsinks
    obtain ⟨front, back, extra, hfailures, hfailures', hname⟩ := hspares.failures
    refine ⟨rfl, congrArg Engine.afterScan hengine, hspares.sinks,
      s.trail ++ [.scanCompleted (.ofResult result subject)] ++ front.map (·.event subject),
      back.map (·.event subject), extra.map (·.event subject), ?_, ?_, ?_⟩
    · show s.trail ++ [_] ++ DispatchReport.events _ subject = _
      rw [DispatchReport.events, hfailures, List.map_append, List.append_assoc, List.append_assoc,
        List.append_assoc]
    · show s'.trail ++ [_] ++ DispatchReport.events _ subject = _
      rw [DispatchReport.events, hfailures', htrail]
      cases extra <;> simp
    · intro e he
      obtain ⟨f, hf, rfl⟩ := Option.map_eq_some_iff.mp he
      exact ⟨subject.path, subject.index, f.error.message, by rw [← hname f hf]; rfl⟩

end Runner

/-! ## All that holds of the rounds of a dispatcher -/

/-- Who is attached. The handlers are those that came and were not to go since, in order; no two that came
have one name; each that came went with success once, or is still there; and to detach takes away the
handler with the name and no other one, or fails and changes nothing. -/
structure Attends (es : List (DeskEvent σ)) (d : Dispatcher σ) : Prop where
  handlers : d.handlers = standing es
  distinct : ((attachments es).map (·.1)).Nodup
  once : ∀ id, es.countP (DeskEvent.tookAway id) + (d.handlers.map (·.1)).count id =
    ((attachments es).map (·.1)).count id
  taken : ∀ id ∈ d.handlers.map (·.1),
    d.detach id = (true, { d with handlers := d.handlers.filter (·.1 ≠ id) })
  refused : ∀ id, id ∉ d.handlers.map (·.1) → d.detach id = (false, d)

theorem Roster.attends {es : List (DeskEvent σ)} {d : Dispatcher σ} (h : Roster es d)
    (hn : (attachments es).length ≤ UInt64.size) : Attends es d where
  handlers := h.handlers
  distinct := h.nodup_attachments hn
  once := h.balance
  taken _ := Dispatcher.detach_of_mem
  refused _ := Dispatcher.detach_of_not_mem

theorem HandlerCall.isSome_failure? (c : HandlerCall σ) : c.failure?.isSome = !c.outcome.isOk := by
  obtain ⟨handler, result, subject, outcome⟩ := c
  rcases outcome with (fault | fault) | _ <;> rfl

/-- A round that has called all its handlers comes to their number and the number of those that failed. -/
theorem Round.Accounts.report {round : Round σ} {calls : List (HandlerCall σ)} (h : round.Accounts calls)
    (hdone : round.pending = []) : calls.map (·.handler) = round.handlers ∧
      ∃ report, round.report? = some report ∧ report.handled = round.handlers.length ∧
        report.failed = calls.countP (!·.outcome.isOk) := by
  have horder := h.order
  rw [hdone, List.append_nil] at horder
  refine ⟨horder, ⟨round.handled, round.failures⟩, ?_, ?_, ?_⟩
  · rw [Round.report?, hdone]
    rfl
  · show round.handled = _
    rw [h.handled, ← horder, List.length_map]
  · show round.failures.length = _
    rw [h.failures, List.length_filterMap_eq_countP]
    exact List.countP_congr fun c _ => by rw [c.isSome_failure?]

/-- A dispatcher fans out. In any run, with rounds under way while handlers come and go: those who are
attached are right; each round calls the handlers that were attached when it began, each once and in
order, comes to how many they were and how many failed, and one failure is recorded for each of those; a
round that nothing comes between is a dispatch. One handler more, which spares what the others see, takes
nothing from them and from the job; and no handler at all has a part in whether a job is done. -/
theorem Desk.run_fans_out (sinks : σ) (ops : List (DeskOperation σ))
    (hn : ops.countP (·.attaches) < UInt64.size) :
    let es := ((start sinks).run ops).1
    let d := ((start sinks).run ops).2
    Attends es d.dispatcher ∧
      Fans sinks es d ∧
      (∀ i round, d.rounds[i]? = some round → round.pending = [] →
        (callsIn i es).map (·.handler) = round.handlers ∧
          ∃ report, round.report? = some report ∧ report.handled = round.handlers.length ∧
            report.failed = (callsIn i es).countP (!·.outcome.isOk)) ∧
      (∀ r s, let ran := (d.dispatcher.dispatch r s).run d.sinks
        let calls := List.replicate d.dispatcher.handlers.length (.call d.rounds.length)
        ∃ round : Round σ, round.report? = some ran.1 ∧ (d.run (.dispatch r s :: calls)).2 =
          { d with
            rounds := d.rounds ++ [round]
            sinks := ran.2
            trail := d.trail ++ ran.1.events s }) ∧
      (∀ (ρ : Type) (get : σ → ρ) (d d' : Dispatcher σ) (i : Nat) (h : Handler σ),
        d.HasMore d' i h → (∀ a ∈ d.handlers, a.2.Sees get) → h.Spares get →
        (∀ r s t t', get t = get t' → Dispatcher.SparesOthers get d d' i h r s t t') ∧
          ∀ r j (s s' : RunState σ), s'.engine = s.engine → s'.trail = s.trail →
            get s.sinks = get s'.sinks → Runner.SparesOthers get h
              ((Runner.process r d j).run.run s) ((Runner.process r d' j).run.run s')) ∧
      ∀ (τ : Type) (d : Dispatcher σ) (d' : Dispatcher τ) r j (s : RunState σ) (s' : RunState τ),
        s'.engine = s.engine → ((Runner.consume r d' j).run s').1 = ((Runner.consume r d j).run s).1 := by
  intro es d
  have hle : ops.countP (·.attaches) ≤ UInt64.size := Nat.le_of_lt hn
  obtain ⟨hroster, hfans⟩ := keeps_run sinks ops hle
  rw [← length_attachments_run (start sinks)] at hle
  refine ⟨hroster.attends hle, hfans, fun i round hround hdone => ?_, run_dispatch d, ?_, ?_⟩
  · exact (hfans.accounts i round hround).report hdone
  · intro ρ get d d' i h hmore hothers hh
    refine ⟨fun r s t t' => Dispatcher.sparesOthers_dispatch hmore hothers hh, ?_⟩
    exact fun r j s s' => Runner.sparesOthers_process hmore hothers hh
  · exact fun τ d d' r j s s' hengine => Runner.consume_fans r j d d' hengine

/-- A handler that counts its calls and panics. -/
def counting : Handler Nat :=
  .uniform "counting" fun _ _ => do
    modify (· + 1)
    throw .panic

/-- A handler that keeps what it is called with, and one that counts and panics, each with its own part of
the state. -/
def keeper : Handler (List String × Nat) := Runner.noting.over Prod.fst fun kept t => (kept, t.2)

def counter : Handler (List String × Nat) := counting.over Prod.snd fun n t => (t.1, n)

/-- Two rounds at once. The first handler goes after its first call and comes again before the second round
begins, behind the other one. -/
def busy : List (DeskOperation (List String × Nat)) :=
  let round := .dispatch (.make .infected "X" default default 1) ⟨"/a", some 1, .string, none⟩
  [.attach keeper, .attach counter, round, .call 0, .detach 0, .attach keeper, round, .call 1, .call 0,
    .call 1]

/-- Both rounds call two handlers, of which the one that panics fails; it has no part in what the other one
keeps, nor in what becomes of a job. -/
theorem Desk.run_fans_out_busy :
    let es := ((start ([], 0)).run busy).1
    let d := ((start ([], 0)).run busy).2
    d.dispatcher.handlers = standing es ∧ d.dispatcher.handlers.map (·.1) = [1, 2] ∧
      d.sinks = (["/a", "String", "/a", "String"], 2) ∧
      d.rounds.length = 2 ∧
      (∀ i round, d.rounds[i]? = some round → ∃ report, round.report? = some report ∧
        report.handled = 2 ∧ report.failed = (callsIn i es).countP (!·.outcome.isOk)) ∧
      ∀ r j (s : RunState (List String × Nat)),
        ((Runner.process r d.dispatcher j).run.run s).1 =
          ((Runner.process r (Dispatcher.empty.attach keeper).2 j).run.run s).1 := by
  intro es d
  obtain ⟨hattends, -, hrounds, -, hspares, -⟩ := run_fans_out ([], 0) busy (by decide)
  have hids : d.dispatcher.handlers.map (·.1) = [1, 2] := by decide +kernel
  have hsinks : d.sinks = (["/a", "String", "/a", "String"], 2) := by decide +kernel
  have hlengths : ∀ round ∈ d.rounds, round.pending.length = 0 ∧ round.handlers.length = 2 := by
    decide +kernel
  refine ⟨hattends.handlers, hids, hsinks, by decide +kernel, fun i round hround => ?_, fun r j s => ?_⟩
  · obtain ⟨hpending, hhandlers⟩ := hlengths round (List.mem_of_getElem? hround)
    obtain ⟨-, report, hreport, hhandled, hfailed⟩ :=
      hrounds i round hround (List.eq_nil_of_length_eq_zero hpending)
    exact ⟨report, hreport, hhandled.trans hhandlers, hfailed⟩
  · have hmore : (Dispatcher.empty.attach keeper).2.HasMore d.dispatcher 0 counter :=
      ⟨[], [keeper], rfl, rfl, rfl⟩
    have hsees : ∀ a ∈ (Dispatcher.empty.attach keeper).2.handlers, a.2.Sees Prod.fst := by
      intro a ha
      rw [List.mem_singleton.mp ha]
      exact Handler.sees_over (fun _ _ => rfl) _
    have hcounter : counter.Spares Prod.fst := by
      refine Handler.spares_over ?_ counting
      intro n t
      rfl
    exact ((hspares _ Prod.fst _ _ 0 counter hmore hsees hcounter).2 r j s s rfl rfl rfl).answer

end Sentinel
