import Sentinel.Proofs.Streaming.Removal
/-!
# The course of a client

Whoever looks at a client again and again sees it open for a while, then draining and idle by turns, and at
last not any more. This holds for every client in every history, with transports of its own or shared ones.

1. `IsEnding`, `IsOpening`, `IsCourse`: what is observed from the first service on, from the opening on, and
   from the beginning; each of them goes back one step.
2. `state?_act`: what an operation can make of the state of a client that is known.
3. `observed_of_gone`, `isEnding_observed`, `isOpening_observed`: what is observed from each state on.
4. `course_observed`: what is observed from the beginning.
-/

namespace Sentinel

namespace Live

variable {l : Live} {k : ClientId} {s : Option ClientState} {states : List (Option ClientState)}

/-- The states that are observed of a client, at first and after each operation; of a client that is not
registered none is. -/
def observed (k : ClientId) (l : Live) : List ClientOperation → List (Option ClientState)
  | [] => [l.registry.state? k]
  | op :: ops => l.registry.state? k :: observed k (l.act op) ops

/-- The client is not known at first. Then it is open for a while, then draining or idle, in any order, and in
the end it is gone; it is open once before anything else is observed. -/
def IsCourse (states : List (Option ClientState)) : Prop :=
  ∃ unknown opened served gone, states = unknown ++ (opened ++ (served ++ gone)) ∧
    (∀ s ∈ unknown, s = none) ∧ (∀ s ∈ opened, s = some .opened) ∧
    (∀ s ∈ served, s = some .draining ∨ s = some .idle) ∧ (∀ s ∈ gone, s = none) ∧
    (opened = [] → served = [] ∧ gone = [])

/-- From the first service on the client is draining or idle, in any order, and in the end it is gone. -/
def IsEnding (states : List (Option ClientState)) : Prop :=
  ∃ served gone, states = served ++ gone ∧ (∀ s ∈ served, s = some .draining ∨ s = some .idle) ∧
    ∀ s ∈ gone, s = none

/-- From its opening on the client is open, once at least, before anything else. -/
def IsOpening (states : List (Option ClientState)) : Prop :=
  ∃ opened ending, states = opened ++ ending ∧ opened ≠ [] ∧ (∀ s ∈ opened, s = some .opened) ∧
    IsEnding ending

theorem IsEnding.of_gone (hgone : ∀ s ∈ states, s = none) : IsEnding states :=
  ⟨[], states, rfl, List.forall_mem_nil _, hgone⟩

theorem IsEnding.cons (hs : s = some .draining ∨ s = some .idle) (h : IsEnding states) :
    IsEnding (s :: states) := by
  obtain ⟨served, gone, rfl, hserved, hgone⟩ := h
  exact ⟨s :: served, gone, rfl, List.forall_mem_cons.mpr ⟨hs, hserved⟩, hgone⟩

theorem IsEnding.opening (hs : s = some .opened) (h : IsEnding states) : IsOpening (s :: states) :=
  ⟨[s], states, rfl, List.cons_ne_nil s [], List.forall_mem_singleton.mpr hs, h⟩

theorem IsOpening.cons (hs : s = some .opened) (h : IsOpening states) : IsOpening (s :: states) := by
  obtain ⟨opened, ending, rfl, -, hopened, hending⟩ := h
  exact ⟨s :: opened, ending, rfl, List.cons_ne_nil s opened, List.forall_mem_cons.mpr ⟨hs, hopened⟩, hending⟩

theorem IsOpening.course (h : IsOpening states) : IsCourse states := by
  obtain ⟨opened, _, rfl, hne, hopened, served, gone, rfl, hserved, hgone⟩ := h
  exact ⟨[], opened, served, gone, rfl, List.forall_mem_nil _, hopened, hserved, hgone,
    fun hnil => absurd hnil hne⟩

theorem IsCourse.of_unknown (hs : s = none) : IsCourse [s] :=
  ⟨[s], [], [], [], rfl, List.forall_mem_singleton.mpr hs, List.forall_mem_nil _, List.forall_mem_nil _,
    List.forall_mem_nil _, fun _ => ⟨rfl, rfl⟩⟩

theorem IsCourse.cons (hs : s = none) (h : IsCourse states) : IsCourse (s :: states) := by
  obtain ⟨unknown, opened, served, gone, rfl, hunknown, hrest⟩ := h
  exact ⟨s :: unknown, opened, served, gone, rfl, List.forall_mem_cons.mpr ⟨hs, hunknown⟩, hrest⟩

theorem client?_drain_account {a : Account} {c : Client} (hc : a.client? ≠ none) (d : Drained) :
    (a.drain c d).client? = none ∨
      ∃ c', (a.drain c d).client? = some c' ∧ (c'.state = .draining ∨ c'.state = .idle) := by
  obtain ⟨old, hold⟩ := Option.ne_none_iff_exists'.mp hc
  rw [Account.drain]
  cases d.failure with
  | none =>
    refine .inr ⟨_, by rw [Account.note, hold]; rfl, ?_⟩
    cases d.queue <;> simp
  | some e => simp [Account.note, Account.remove, hold]

/-- A client that is known is gone after an operation, or its state is the one that it was, or it is one of those
that emptying its queue leaves. -/
theorem state?_act (h : l.IsProper) (hk : k < l.connections.issued) (op : ClientOperation) :
    (l.act op).registry.state? k = none ∨ (l.act op).registry.state? k = l.registry.state? k ∨
      l.registry.state? k ≠ none ∧
        ((l.act op).registry.state? k = some .draining ∨ (l.act op).registry.state? k = some .idle) := by
  obtain ⟨hstep, -⟩ := step_act h hk op
  have hstate (l : Live) : l.registry.state? k = (l.account k).client?.map (·.state) := rfl
  rw [hstate, hstate]
  generalize (l.act op).account k = a' at hstep
  cases hstep with
  | gone hnone => exact .inr (.inl rfl)
  | spared hquiet => exact .inr (.inl rfl)
  | drained t hc _ =>
    rcases client?_drain_account (Option.ne_none_iff_exists'.mpr ⟨_, hc⟩) _ with hnone | ⟨c', hc', hstate'⟩
    · left
      rw [hnone]
      rfl
    · right
      right
      rw [hc', hc]
      simpa using hstate'
  | removed hc _ | shut hc _ =>
    left
    simp [Account.remove, Account.note, hc]

theorem observed_of_gone (h : l.IsProper) (hk : k < l.connections.issued) (hgone : l.registry.state? k = none)
    (ops : List ClientOperation) : ∀ s ∈ observed k l ops, s = none := by
  induction ops generalizing l with
  | nil => simpa [observed] using hgone
  | cons op ops ih =>
    have hnext : (l.act op).registry.state? k = none := by
      rcases state?_act h hk op with hnone | hsame | ⟨hthere, -⟩
      · exact hnone
      · exact hsame.trans hgone
      · exact absurd hgone hthere
    intro s hs
    rcases List.mem_cons.mp hs with rfl | hs
    · exact hgone
    · exact ih (isProper_act h op) (step_act h hk op).2 hnext s hs

theorem isEnding_observed (h : l.IsProper) (hk : k < l.connections.issued)
    (hserved : l.registry.state? k = some .draining ∨ l.registry.state? k = some .idle)
    (ops : List ClientOperation) : IsEnding (observed k l ops) := by
  induction ops generalizing l with
  | nil => exact (IsEnding.of_gone (List.forall_mem_nil _)).cons hserved
  | cons op ops ih =>
    have hproper := isProper_act h op
    have hk' := (step_act h hk op).2
    rcases state?_act h hk op with hnone | hsame | ⟨-, hnext⟩
    · exact (IsEnding.of_gone (observed_of_gone hproper hk' hnone ops)).cons hserved
    · exact (ih hproper hk' (hsame ▸ hserved)).cons hserved
    · exact (ih hproper hk' hnext).cons hserved

theorem isOpening_observed (h : l.IsProper) (hk : k < l.connections.issued)
    (hopened : l.registry.state? k = some .opened) (ops : List ClientOperation) :
    IsOpening (observed k l ops) := by
  induction ops generalizing l with
  | nil => exact (IsEnding.of_gone (List.forall_mem_nil _)).opening hopened
  | cons op ops ih =>
    have hproper := isProper_act h op
    have hk' := (step_act h hk op).2
    rcases state?_act h hk op with hnone | hsame | ⟨-, hnext⟩
    · exact (IsEnding.of_gone (observed_of_gone hproper hk' hnone ops)).opening hopened
    · exact (ih hproper hk' (hsame.trans hopened)).cons hopened
    · exact (isEnding_observed hproper hk' hnext ops).opening hopened

/-- From before it is known, a client takes its course. -/
theorem course_observed (h : l.IsProper) (hk : l.connections.issued ≤ k) (ops : List ClientOperation) :
    IsCourse (observed k l ops) := by
  have hnone {l : Live} (h : l.IsProper) (hk : l.connections.issued ≤ k) : l.registry.state? k = none := by
    cases hfind : l.registry.find? k with
    | none => simp [Registry.state?, hfind]
    | some c => exact absurd (h.lt_issued hfind) (Nat.not_lt.mpr hk)
  induction ops generalizing l with
  | nil => exact IsCourse.of_unknown (hnone h hk)
  | cons op ops ih =>
    have hproper := isProper_act h op
    obtain ⟨-, hissued⟩ := account_act h op k
    have hnext : IsCourse (observed k (l.act op) ops) := by
      by_cases hnew : l.Registers op k
      · -- The operation registers the client.
        obtain ⟨u, hopened⟩ := hnew.opened
        have hstate : (l.act op).registry.state? k = some .opened :=
          congrArg (fun a : Account => a.client?.map Client.state) hopened
        have hk' : k < (l.act op).connections.issued := by
          rw [hnew.issued]
          exact Nat.lt_succ_self k
        exact (isOpening_observed hproper hk' hstate ops).course
      · have hk' : (l.act op).connections.issued ≤ k := by
          rcases hissued with hsame | hother
          · rw [hsame]
            exact hk
          · have hne : l.connections.issued ≠ k := fun heq => hnew (heq ▸ hother)
            rw [hother.issued]
            omega
        exact ih hproper hk'
    exact hnext.cons (hnone h hk)

end Live

end Sentinel
