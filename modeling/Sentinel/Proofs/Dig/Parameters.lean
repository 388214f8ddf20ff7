import Mathlib.Algebra.Ring.Int.Defs
import Sentinel.Proofs.Dig.Defaults
import Sentinel.Proofs.Dig.Report
import Sentinel.Proofs.Pipeline.Validation
import Sentinel.Proofs.Text.Integer
/-!
# Parameters of dig requests

Which parameters make a request, what request they make, and what is said of those that make none.
Each part of the reader rules out its own flaws, in order: a part that succeeds shows that its flaws
are absent, and a part that fails names the first one. Such parts are put together, so that the whole
reader names the first of all flaws.

1. `Rules.bind`: two parts in turn rule out the flaws of the first and then those of the second.
2. `rules_ofParams`: a reader with admitted settings rules out all flaws in their order.
3. `stands_of_ofParams`: what is read is what the parameters give, and for the rest the settings.
4. `ofParams_congr`: nothing else that is given has an influence.
5. `ofParams_outcome`: acceptance, the request and the error in one.
-/

namespace Sentinel

open Text (Writes)

namespace PropertyType

theorem mapM_parse_of_forall {names : List String} (h : ∀ name ∈ names, ∃ t, canonicalName t = name) :
    ∃ ts : List PropertyType, names.mapM parse = .ok ts ∧ ts.map canonicalName = names := by
  induction names with
  | nil => exact ⟨[], rfl, rfl⟩
  | cons name names ih =>
    obtain ⟨⟨t, ht⟩, hrest⟩ := List.forall_mem_cons.mp h
    obtain ⟨ts, hts, hnames⟩ := ih hrest
    have hparse : parse name = .ok t := by rw [← ht, parse, ofName?_name]
    refine ⟨t :: ts, ?_, by rw [List.map_cons, hnames, ht]⟩
    rw [List.mapM_cons, hparse, hts]
    rfl

theorem mapM_parse_of_mem {names : List String} {name : String} (hname : name ∈ names)
    (h : ∀ t : PropertyType, t.canonicalName ≠ name) : ∃ e, names.mapM parse = .error e := by
  induction names with
  | nil => exact absurd hname List.not_mem_nil
  | cons first names ih =>
    rw [List.mapM_cons]
    cases hfirst : parse first with
    | error e => exact ⟨e, rfl⟩
    | ok t =>
      rcases List.mem_cons.mp hname with rfl | hname
      · rw [parse, ofName?_eq_none_iff.mpr h] at hfirst
        cases hfirst
      · obtain ⟨e, he⟩ := ih hname
        exact ⟨e, by rw [he]; rfl⟩

theorem parseAll_of_forall {names : List String} (h : ∀ name ∈ names, ∃ t, canonicalName t = name) :
    parseAll names = .ok (all.filter fun t => names.contains t.canonicalName) := by
  obtain ⟨ts, hts, rfl⟩ := mapM_parse_of_forall h
  rw [parseAll, hts]
  refine congrArg Except.ok (List.filter_congr fun t _ => ?_)
  rw [Bool.eq_iff_iff, List.contains_iff_mem, List.contains_iff_mem, List.mem_map]
  constructor
  · intro ht
    exact ⟨t, ht, rfl⟩
  · rintro ⟨s, hs, hname⟩
    exact canonicalName_inj.mp hname ▸ hs

theorem parseAll_of_mem {names : List String} {name : String} (hname : name ∈ names)
    (h : ∀ t : PropertyType, t.canonicalName ≠ name) : ∃ e, parseAll names = .error e := by
  obtain ⟨e, he⟩ := mapM_parse_of_mem hname h
  exact ⟨e, by rw [parseAll, he]; rfl⟩

end PropertyType

namespace DigRequest

/-- The texts that are listed for a parameter, none where it is not given. -/
def listed (params : RequestParams) (name : String) : List String := (params.get? name).getD []

/-- A parameter whose text writes no integer of as many bits besides the sign. -/
def IsUnread (params : RequestParams) (name : String) (bits : Nat) : Prop :=
  ∃ text ∈ (listed params name).head?, ∀ i, Writes text i → ¬(-2 ^ bits ≤ i ∧ i < 2 ^ bits)

/-- A parameter whose text writes an integer that is no limit. -/
def IsOutside (params : RequestParams) (name : String) (bits : Nat) : Prop :=
  ∃ text ∈ (listed params name).head?, ∃ i, Writes text i ∧ ¬(-1 ≤ i ∧ i < 2 ^ bits)

/-- What may be wrong with the parameters of a request. -/
inductive Flaw where
  | noPath
  | badPattern
  | unknownType
  | unreadLength
  | unreadDepth
  | lengthOutside
  | depthOutside
deriving DecidableEq, Repr

namespace Flaw

/-- The flaws in the order in which they are looked for. -/
def inOrder : List Flaw :=
  [noPath, badPattern, unknownType, unreadLength, unreadDepth, lengthOutside, depthOutside]

/-- The parameter that a flaw is about. -/
def parameter : Flaw → String
  | noPath => "path"
  | badPattern => "pattern"
  | unknownType => "propertyTypes"
  | unreadLength | lengthOutside => "maxLength"
  | unreadDepth | depthOutside => "maxDepth"

/-- Whether parameters have a flaw. -/
def IsIn [SizeLimit] (params : RequestParams) : Flaw → Prop
  | noPath => listed params "path" = []
  | badPattern => ∃ source ∈ (listed params "pattern").head?, ∀ p, PathPattern.ofSource? source ≠ .ok p
  | unknownType => ∃ name ∈ listed params "propertyTypes", ∀ t : PropertyType, t.canonicalName ≠ name
  | unreadLength => IsUnread params "maxLength" 63
  | unreadDepth => IsUnread params "maxDepth" 31
  | lengthOutside => IsOutside params "maxLength" 63
  | depthOutside => IsOutside params "maxDepth" 31

/-- A flaw that parameters have while they have none of those before it in a list. -/
def IsFirstIn [SizeLimit] (params : RequestParams) (flaws : List Flaw) (flaw : Flaw) : Prop :=
  flaw.IsIn params ∧ ∃ before after, flaws = before ++ flaw :: after ∧ ∀ f ∈ before, ¬f.IsIn params

theorem IsFirstIn.unique [SizeLimit] {params : RequestParams} {flaws : List Flaw} {f g : Flaw}
    (hf : f.IsFirstIn params flaws) (hg : g.IsFirstIn params flaws) : f = g := by
  obtain ⟨hf, before, after, rfl, hbefore⟩ := hf
  obtain ⟨hg, before', after', hsplit, hbefore'⟩ := hg
  rcases List.append_eq_append_iff.mp hsplit with ⟨between, rfl, hrest⟩ | ⟨between, rfl, hrest⟩
  · cases between with
    | nil => exact (List.cons.inj hrest).1
    | cons h between =>
      obtain rfl := (List.cons.inj hrest).1
      exact absurd hf (hbefore' _ (List.mem_append_right _ List.mem_cons_self))
  · cases between with
    | nil => exact (List.cons.inj hrest).1.symm
    | cons h between =>
      obtain rfl := (List.cons.inj hrest).1
      exact absurd hg (hbefore _ (List.mem_append_right _ List.mem_cons_self))

end Flaw

/-- Parameters from which a request can be read. -/
structure IsAcceptable [SizeLimit] (params : RequestParams) : Prop where
  path : listed params "path" ≠ []
  pattern : ∀ source ∈ (listed params "pattern").head?, ∃ p, PathPattern.ofSource? source = .ok p
  types : ∀ name ∈ listed params "propertyTypes", ∃ t : PropertyType, t.canonicalName = name
  maxLength : ∀ text ∈ (listed params "maxLength").head?, ∃ i, Writes text i ∧ -1 ≤ i ∧ i < 2 ^ 63
  maxDepth : ∀ text ∈ (listed params "maxDepth").head?, ∃ i, Writes text i ∧ -1 ≤ i ∧ i < 2 ^ 31

/-- The integer that a parameter gives, or a default where it gives none. -/
def Gives (params : RequestParams) (name : String) (default i : Int) : Prop :=
  match (listed params name).head? with
  | some text => Writes text i
  | none => i = default

/-- The request that parameters give, with the settings for what they do not. -/
structure Stands [SizeLimit] (params : RequestParams) (settings : TreeDigSettings) (r : DigRequest) :
    Prop where
  path : (listed params "path").head? = some r.path
  pattern :
    PathPattern.ofSource? ((listed params "pattern").head?.getD settings.pathPattern) = .ok r.pattern
  propertyTypes : r.propertyTypes = PropertyType.all.filter fun t =>
    if (listed params "propertyTypes").isEmpty then settings.propertyTypes.contains t
    else (listed params "propertyTypes").contains t.canonicalName
  maxLength : Gives params "maxLength" settings.maxLength r.maxLength
  maxDepth : Gives params "maxDepth" settings.maxDepth r.maxDepth

/-- A part of the reader rules out flaws in order: where it succeeds there are none of them, and where
it fails it says that the parameter of the first one is not valid. -/
def Rules [SizeLimit] {α : Type} (params : RequestParams) (flaws : List Flaw) :
    Except DispatchError α → Prop
  | .ok _ => ∀ f ∈ flaws, ¬f.IsIn params
  | .error e =>
    ∃ (flaw : Flaw) (reason : String), flaw.IsFirstIn params flaws ∧ e = .validation flaw.parameter reason

section Parts

variable {α β : Type} {params : RequestParams} {flaw : Flaw} {name : String}

theorem Rules.bind [SizeLimit] {flaws further : List Flaw} {x : Except DispatchError α}
    {f : α → Except DispatchError β} (hx : Rules params flaws x)
    (hf : ∀ a, x = .ok a → Rules params further (f a)) : Rules params (flaws ++ further) (x >>= f) := by
  cases x with
  | error e =>
    obtain ⟨flaw, reason, ⟨hflaw, before, after, rfl, hbefore⟩, he⟩ := hx
    exact ⟨flaw, reason, ⟨hflaw, before, after ++ further, by simp, hbefore⟩, he⟩
  | ok a =>
    replace hx : ∀ f ∈ flaws, ¬f.IsIn params := hx
    have hrest := hf a rfl
    show Rules params (flaws ++ further) (f a)
    cases hy : f a with
    | ok b =>
      rw [hy] at hrest
      exact List.forall_mem_append.mpr ⟨hx, hrest⟩
    | error e =>
      rw [hy] at hrest
      obtain ⟨flaw, reason, ⟨hflaw, before, after, rfl, hbefore⟩, he⟩ := hrest
      exact ⟨flaw, reason, ⟨hflaw, flaws ++ before, after, by simp,
        List.forall_mem_append.mpr ⟨hx, hbefore⟩⟩, he⟩

/-- A part that looks for one flaw. -/
theorem rules_one [SizeLimit] {x : Except DispatchError α} (hok : ∀ a, x = .ok a → ¬flaw.IsIn params)
    (herror : ∀ e, x = .error e → flaw.IsIn params ∧ ∃ reason, e = .validation flaw.parameter reason) :
    Rules params [flaw] x := by
  cases x with
  | ok a => exact List.forall_mem_singleton.mpr (hok a rfl)
  | error e =>
    obtain ⟨hflaw, reason, he⟩ := herror e rfl
    exact ⟨flaw, reason, ⟨hflaw, [], [], rfl, fun f hf => absurd hf List.not_mem_nil⟩, he⟩

theorem first?_eq (params : RequestParams) (name : String) :
    first? params name = (listed params name).head? := by
  rw [first?, listed]
  cases params.get? name <;> rfl

theorem patternOf_eq [SizeLimit] (default : PathPattern) : patternOf params default =
    match (listed params "pattern").head? with
    | some source => PathPattern.ofSource? source
    | none => .ok default := by
  cases h : (listed params "pattern").head? <;> simp only [patternOf, first?_eq, h]

theorem rules_patternOf [SizeLimit] (default : PathPattern) :
    Rules params [.badPattern] (patternOf params default) := by
  rw [patternOf_eq]
  cases hsource : (listed params "pattern").head? with
  | none =>
    refine rules_one (fun p _ hflaw => ?_) fun e he => ?_
    · obtain ⟨source, hs, -⟩ := hflaw
      rw [hsource] at hs
      cases hs
    · cases he
  | some source =>
    show Rules params [.badPattern] (PathPattern.ofSource? source)
    refine rules_one (fun p hp hflaw => ?_) fun e he => ⟨⟨source, hsource, fun p hp => ?_⟩, ?_⟩
    · obtain ⟨source', hs, hnone⟩ := hflaw
      rw [hsource] at hs
      exact hnone p (Option.some.inj hs ▸ hp)
    · rw [he] at hp
      cases hp
    · exact ⟨_, PathPattern.error_of_ofSource? he⟩

theorem typesOf_eq (default : List PropertyType) : typesOf params default =
    if (listed params "propertyTypes").isEmpty then .ok default
    else match PropertyType.parseAll (listed params "propertyTypes") with
    | .ok types => .ok types
    | .error _ =>
      .error (.invalidValue "propertyTypes" (Text.quotedList (listed params "propertyTypes"))) := by
  rw [typesOf, listed]
  cases params.get? "propertyTypes" with
  | none => rfl
  | some names => cases names <;> rfl

theorem rules_typesOf [SizeLimit] (default : List PropertyType) :
    Rules params [.unknownType] (typesOf params default) := by
  rw [typesOf_eq]
  by_cases hnames : (listed params "propertyTypes").isEmpty = true
  · rw [if_pos hnames]
    refine rules_one (fun p _ hflaw => ?_) fun e he => ?_
    · obtain ⟨name, hname, -⟩ := hflaw
      rw [List.isEmpty_iff.mp hnames] at hname
      cases hname
    · cases he
  · rw [if_neg hnames]
    by_cases hall : ∀ name ∈ listed params "propertyTypes", ∃ t : PropertyType, t.canonicalName = name
    · rw [PropertyType.parseAll_of_forall hall]
      refine rules_one (fun p _ hflaw => ?_) fun e he => ?_
      · obtain ⟨name, hname, hnone⟩ := hflaw
        obtain ⟨t, ht⟩ := hall name hname
        exact hnone t ht
      · cases he
    · push Not at hall
      obtain ⟨name, hname, hnone⟩ := hall
      obtain ⟨e, he⟩ := PropertyType.parseAll_of_mem hname hnone
      rw [he]
      refine rules_one (fun p hp => ?_) fun e he => ⟨⟨name, hname, hnone⟩, _, (Except.error.inj he).symm⟩
      cases hp

theorem integer?_eq_ok_iff {parameter text : String} {lo hi i : Int} :
    integer? parameter text lo hi = .ok i ↔ Writes text i ∧ lo ≤ i ∧ i ≤ hi := by
  rw [integer?, ← Text.signedNumeral?_trim]
  cases Text.signedNumeral? (Text.trim text).toList with
  | none => simp
  | some j =>
    by_cases hj : lo ≤ j ∧ j ≤ hi
    · simp only [if_pos hj, Except.ok.injEq, Option.some.injEq]
      constructor
      · rintro rfl
        exact ⟨rfl, hj⟩
      · rintro ⟨rfl, -⟩
        rfl
    · simp only [if_neg hj, reduceCtorEq, Option.some.injEq, false_iff]
      rintro ⟨rfl, h⟩
      exact hj h

theorem integer?_eq_error {parameter text : String} {lo hi : Int} {e : DispatchError}
    (h : integer? parameter text lo hi = .error e) : e = .invalidValue parameter text := by
  unfold integer? at h
  split at h
  · split at h
    · cases h
    · exact (Except.error.inj h).symm
  · exact (Except.error.inj h).symm

theorem limitOf_eq_ok {lo hi default i : Int} (h : limitOf params name lo hi default = .ok i) :
    Gives params name default i ∧ ∀ text ∈ (listed params name).head?, lo ≤ i ∧ i ≤ hi := by
  rw [limitOf, first?_eq] at h
  rw [Gives]
  cases htext : (listed params name).head? with
  | none =>
    rw [htext] at h
    exact ⟨(Except.ok.inj h).symm, fun text ht => absurd ht (by simp)⟩
  | some text =>
    rw [htext] at h
    obtain ⟨hi, hbounds⟩ := integer?_eq_ok_iff.mp h
    exact ⟨hi, fun _ _ => hbounds⟩

theorem rules_limitOf [SizeLimit] (flaw : Flaw) (bits : Nat)
    (hflaw : flaw.IsIn params ↔ IsUnread params name bits) (hname : flaw.parameter = name) {lo hi : Int}
    (hlo : lo = -2 ^ bits) (hhi : hi = 2 ^ bits - 1) (default : Int) :
    Rules params [flaw] (limitOf params name lo hi default) := by
  refine rules_one (fun i hi hin => ?_) fun e he => ?_
  · obtain ⟨text, htext, hunread⟩ := hflaw.mp hin
    obtain ⟨hgives, hbounds⟩ := limitOf_eq_ok hi
    rw [Gives, htext] at hgives
    have := hbounds text htext
    exact hunread i hgives (by omega)
  · rw [limitOf, first?_eq] at he
    cases htext : (listed params name).head? with
    | none =>
      rw [htext] at he
      cases he
    | some text =>
      rw [htext] at he
      refine ⟨hflaw.mpr ⟨text, htext, fun i hwrites hbounds => ?_⟩, _, hname ▸ integer?_eq_error he⟩
      have hok : integer? name text lo hi = .ok i :=
        integer?_eq_ok_iff.mpr ⟨hwrites, by omega, by omega⟩
      cases hok.symm.trans he

theorem rules_check [SizeLimit] (flaw : Flaw) (bits : Nat)
    (hflaw : flaw.IsIn params ↔ IsOutside params name bits) (hname : flaw.parameter = name) {default i : Int}
    (hgives : Gives params name default i) (hdefault : -1 ≤ default)
    (hbound : ∀ text ∈ (listed params name).head?, i < 2 ^ bits) :
    Rules params [flaw] (Limit.check name i) := by
  refine rules_one (fun u hu hin => ?_) fun e he => ?_
  · obtain ⟨text, htext, j, hj, houtside⟩ := hflaw.mp hin
    rw [Gives, htext] at hgives
    obtain rfl := hj.unique hgives
    exact houtside ⟨Limit.check_eq_ok.mp hu, hbound text htext⟩
  · rw [Limit.check] at he
    split at he
    · rename_i hlow
      refine ⟨hflaw.mpr ?_, _, hname ▸ (Except.error.inj he).symm⟩
      rw [Gives] at hgives
      cases htext : (listed params name).head? with
      | none =>
        rw [htext] at hgives
        omega
      | some text =>
        rw [htext] at hgives
        exact ⟨text, htext, i, hgives, fun h => by omega⟩
    · cases he

/-- With settings that are admitted the reader looks for all flaws in their order. -/
theorem rules_ofParams [SizeLimit] {settings : TreeDigSettings} (hsettings : settings.validate = .ok ()) :
    Rules params Flaw.inOrder (ofParams params settings) := by
  obtain ⟨⟨p, hp⟩, -, hmaxLength, hmaxDepth⟩ := TreeDigSettings.validate_eq_ok_iff.mp hsettings
  rw [ofParams, first?_eq]
  cases hpath : listed params "path" with
  | nil => exact ⟨.noPath, _, ⟨hpath, [], _, rfl, fun f hf => absurd hf List.not_mem_nil⟩, rfl⟩
  | cons path paths =>
    dsimp only [List.head?_cons]
    rw [ofSettings_eq hp]
    have hgiven : ∀ f ∈ [Flaw.noPath], ¬f.IsIn params := by
      refine List.forall_mem_singleton.mpr fun hnone => ?_
      rw [Flaw.IsIn, hpath] at hnone
      cases hnone
    have hstep (asked : DigRequest) : Rules params [.noPath] (.ok asked : Except DispatchError DigRequest) :=
      hgiven
    refine (hstep _).bind fun asked hasked => ?_
    cases hasked
    refine (rules_patternOf _).bind fun pattern _ => ?_
    refine (rules_typesOf _).bind fun types _ => ?_
    refine (rules_limitOf .unreadLength 63 Iff.rfl rfl rfl rfl _).bind
      fun maxLength hlength => ?_
    refine (rules_limitOf .unreadDepth 31 Iff.rfl rfl rfl rfl _).bind
      fun maxDepth hdepth => ?_
    obtain ⟨hlength, hlengthBound⟩ := limitOf_eq_ok hlength
    obtain ⟨hdepth, hdepthBound⟩ := limitOf_eq_ok hdepth
    refine (rules_check .lengthOutside 63 Iff.rfl rfl hlength hmaxLength
      fun text htext => Int.lt_of_le_sub_one (hlengthBound text htext).2).bind fun _ _ => ?_
    refine (rules_check .depthOutside 31 Iff.rfl rfl hdepth hmaxDepth
      fun text htext => Int.lt_of_le_sub_one (hdepthBound text htext).2).bind fun _ _ => ?_
    exact fun f hf => absurd hf List.not_mem_nil

theorem patternOf_eq_ok [SizeLimit] {default p : PathPattern} {source : String}
    (hdefault : PathPattern.ofSource? source = .ok default) (h : patternOf params default = .ok p) :
    PathPattern.ofSource? ((listed params "pattern").head?.getD source) = .ok p := by
  rw [patternOf_eq] at h
  cases hsource : (listed params "pattern").head? with
  | none =>
    rw [hsource] at h
    rw [Option.getD_none, hdefault]
    exact h
  | some given =>
    rw [hsource] at h
    exact h

theorem typesOf_eq_ok [SizeLimit] {types default : List PropertyType} (h : typesOf params default = .ok types)
    (hlisted : ¬Flaw.unknownType.IsIn params) :
    types = (if (listed params "propertyTypes").isEmpty then default
      else PropertyType.all.filter fun t => (listed params "propertyTypes").contains t.canonicalName) ∧
      (default ≠ [] → types ≠ []) := by
  have hnames : ∀ name ∈ listed params "propertyTypes", ∃ t : PropertyType, t.canonicalName = name := by
    intro name hname
    by_contra hnone
    exact hlisted ⟨name, hname, not_exists.mp hnone⟩
  rw [typesOf_eq] at h
  split at h
  · rename_i hempty
    obtain rfl := Except.ok.inj h
    exact ⟨(if_pos hempty).symm, id⟩
  · rename_i hempty
    rw [PropertyType.parseAll_of_forall hnames] at h
    obtain rfl := Except.ok.inj h
    refine ⟨(if_neg hempty).symm, fun _ => ?_⟩
    obtain ⟨name, hname⟩ := List.exists_mem_of_ne_nil _ (mt List.isEmpty_iff.mpr hempty)
    obtain ⟨t, rfl⟩ := hnames name hname
    exact PropertyType.filter_all_ne_nil (List.contains_iff_mem.mpr hname)

/-- What is read is what the parameters give, and for the rest what the settings say; a dig does not
refuse it. -/
theorem stands_of_ofParams [SizeLimit] {settings : TreeDigSettings} {r : DigRequest}
    (hsettings : settings.validate = .ok ()) (h : ofParams params settings = .ok r) :
    Stands params settings r ∧ r.scope.IsValid := by
  have hrules : Rules params Flaw.inOrder (ofParams params settings) := rules_ofParams hsettings
  rw [h] at hrules
  have hlisted : ¬Flaw.unknownType.IsIn params := hrules .unknownType (by decide)
  obtain ⟨⟨p, hp⟩, htypes, -, -⟩ := TreeDigSettings.validate_eq_ok_iff.mp hsettings
  rw [ofParams, first?_eq] at h
  cases hpath : listed params "path" with
  | nil =>
    rw [hpath] at h
    cases h
  | cons path paths =>
    rw [hpath] at h
    dsimp only [List.head?_cons] at h
    rw [ofSettings_eq hp] at h
    obtain ⟨_, ⟨⟩, h⟩ := bind_eq_ok.mp h
    obtain ⟨pattern, hpattern, h⟩ := bind_eq_ok.mp h
    obtain ⟨types, htypesOf, h⟩ := bind_eq_ok.mp h
    obtain ⟨maxLength, hlength, h⟩ := bind_eq_ok.mp h
    obtain ⟨maxDepth, hdepth, h⟩ := bind_eq_ok.mp h
    obtain ⟨_, hlengthCheck, h⟩ := bind_eq_ok.mp h
    obtain ⟨_, hdepthCheck, h⟩ := bind_eq_ok.mp h
    obtain rfl := Except.ok.inj h
    obtain ⟨htypesEq, htypesNe⟩ := typesOf_eq_ok htypesOf hlisted
    constructor
    · refine ⟨by rw [hpath]; rfl, patternOf_eq_ok hp hpattern, ?_, (limitOf_eq_ok hlength).1,
        (limitOf_eq_ok hdepth).1⟩
      rw [htypesEq]
      cases (listed params "propertyTypes").isEmpty <;> rfl
    · exact ⟨Limit.check_eq_ok.mp hlengthCheck, Limit.check_eq_ok.mp hdepthCheck,
        htypesNe (PropertyType.ordered_ne_nil htypes)⟩

/-- Only the path, the pattern, the names of types and the two limits count, and of all but the names
only the text that comes first. -/
theorem ofParams_congr [SizeLimit] {params' : RequestParams} (settings : TreeDigSettings)
    (htypes : listed params' "propertyTypes" = listed params "propertyTypes")
    (hfirst : ∀ name ∈ ["path", "pattern", "maxLength", "maxDepth"],
      (listed params' name).head? = (listed params name).head?) :
    ofParams params' settings = ofParams params settings := by
  have hfirst? {name : String} (hname : name ∈ ["path", "pattern", "maxLength", "maxDepth"]) :
      first? params' name = first? params name := by
    rw [first?_eq, first?_eq, hfirst name hname]
  have hpattern (default : PathPattern) : patternOf params' default = patternOf params default := by
    rw [patternOf, patternOf, hfirst? (by decide)]
  have htypesOf (default : List PropertyType) : typesOf params' default = typesOf params default := by
    rw [typesOf_eq, typesOf_eq, htypes]
  have hlength (lo hi default : Int) :
      limitOf params' "maxLength" lo hi default = limitOf params "maxLength" lo hi default := by
    rw [limitOf, limitOf, hfirst? (by decide)]
  have hdepth (lo hi default : Int) :
      limitOf params' "maxDepth" lo hi default = limitOf params "maxDepth" lo hi default := by
    rw [limitOf, limitOf, hfirst? (by decide)]
  rw [ofParams, ofParams, hfirst? (by decide)]
  simp only [hpattern, htypesOf, hlength, hdepth]

end Parts

theorem limit_iff {params : RequestParams} {name : String} {bits : Nat} :
    (∀ text ∈ (listed params name).head?, ∃ i, Writes text i ∧ -1 ≤ i ∧ i < 2 ^ bits) ↔
      ¬IsUnread params name bits ∧ ¬IsOutside params name bits := by
  constructor
  · intro h
    constructor
    · rintro ⟨text, htext, hunread⟩
      obtain ⟨i, hi, hlo, hhi⟩ := h text htext
      have hpos : (0 : Int) < 2 ^ bits := Int.pow_pos (by decide)
      exact hunread i hi ⟨by omega, hhi⟩
    · rintro ⟨text, htext, j, hj, houtside⟩
      obtain ⟨i, hi, hlo, hhi⟩ := h text htext
      obtain rfl := hi.unique hj
      exact houtside ⟨hlo, hhi⟩
  · rintro ⟨hread, hinside⟩ text htext
    by_contra hnone
    push Not at hnone
    refine hread ⟨text, htext, fun i hi hbounds => ?_⟩
    exact hinside ⟨text, htext, i, hi, fun h => absurd (hnone i hi h.1) (by omega)⟩

theorem isAcceptable_iff [SizeLimit] {params : RequestParams} :
    IsAcceptable params ↔ ∀ flaw ∈ Flaw.inOrder, ¬flaw.IsIn params := by
  simp only [Flaw.inOrder, List.forall_mem_cons, List.not_mem_nil, false_implies, implies_true, and_true]
  constructor
  · intro h
    obtain ⟨hlength, hlengthIn⟩ := limit_iff.mp h.maxLength
    obtain ⟨hdepth, hdepthIn⟩ := limit_iff.mp h.maxDepth
    refine ⟨h.path, ?_, ?_, hlength, hdepth, hlengthIn, hdepthIn⟩
    · rintro ⟨source, hsource, hnone⟩
      obtain ⟨p, hp⟩ := h.pattern source hsource
      exact hnone p hp
    · rintro ⟨name, hname, hnone⟩
      obtain ⟨t, ht⟩ := h.types name hname
      exact hnone t ht
  · rintro ⟨hpath, hpattern, htypes, hlength, hdepth, hlengthIn, hdepthIn⟩
    refine ⟨hpath, fun source hsource => ?_, fun name hname => ?_, limit_iff.mpr ⟨hlength, hlengthIn⟩,
      limit_iff.mpr ⟨hdepth, hdepthIn⟩⟩
    · by_contra hnone
      exact hpattern ⟨source, hsource, not_exists.mp hnone⟩
    · by_contra hnone
      exact htypes ⟨name, hname, not_exists.mp hnone⟩

/-- With settings that are admitted a request is read from parameters that are acceptable, and from no
others. It says what the parameters give, with the settings for the rest, and passes the checks of the
dig. Otherwise the error is about the parameter of the first flaw. Nothing else that is given has an
influence. -/
theorem ofParams_outcome [SizeLimit] (params : RequestParams) (settings : TreeDigSettings)
    (hsettings : settings.validate = .ok ()) :
    ((∃ r, ofParams params settings = .ok r) ↔ IsAcceptable params) ∧
      (∀ r, ofParams params settings = .ok r →
        Stands params settings r ∧ Dig.checkScope r.scope = .ok ()) ∧
      (∀ e, ofParams params settings = .error e → ∃ (flaw : Flaw) (reason : String),
        flaw.IsFirstIn params Flaw.inOrder ∧ e = .validation flaw.parameter reason) ∧
      ∀ params', listed params' "propertyTypes" = listed params "propertyTypes" →
        (∀ name ∈ ["path", "pattern", "maxLength", "maxDepth"],
          (listed params' name).head? = (listed params name).head?) →
        ofParams params' settings = ofParams params settings := by
  have hrules : Rules params Flaw.inOrder (ofParams params settings) := rules_ofParams hsettings
  refine ⟨?_, ?_, ?_, fun _ => ofParams_congr settings⟩
  · rw [isAcceptable_iff]
    constructor
    · rintro ⟨r, hr⟩
      rw [hr] at hrules
      exact hrules
    · intro hnone
      cases hr : ofParams params settings with
      | ok r => exact ⟨r, rfl⟩
      | error e =>
        rw [hr] at hrules
        obtain ⟨flaw, _, ⟨hflaw, before, after, horder, -⟩, -⟩ := hrules
        exact absurd hflaw (hnone flaw (horder ▸ List.mem_append_right _ List.mem_cons_self))
  · intro r hr
    obtain ⟨hstands, hvalid⟩ := stands_of_ofParams hsettings hr
    exact ⟨hstands, Dig.checkScope_of_isValid hvalid⟩
  · intro e he
    rw [he] at hrules
    exact hrules

theorem validate_default [SizeLimit] : ({} : TreeDigSettings).validate = .ok () :=
  TreeDigSettings.validate_eq_ok_iff.mpr
    ⟨⟨_, PathPattern.ofSource?_default⟩, by decide, by decide, by decide⟩

/-- Parameters with two types, with a limit between blanks and with texts that nothing reads. -/
def spread : RequestParams :=
  KeyMap.ofList [("path", ["/a", "/b"]), ("propertyTypes", ["URI", "String"]),
    ("maxLength", [" +0007 ", "x"]), ("other", ["y"])]

/-- Parameters with a limit that is too low and one that is no number. -/
def muddled : RequestParams :=
  KeyMap.ofList [("path", ["/a"]), ("maxLength", ["-2"]), ("maxDepth", ["x"])]

theorem not_writes_x (i : Int) : ¬Writes "x" i := by
  have hread : Text.signedNumeral? (Text.trim "x").toList = none := by decide
  rw [← Text.signedNumeral?_trim, hread]
  exact nofun

section Unbounded

attribute [local instance] SizeLimit.unbounded

theorem ofParams_outcome_spread :
    ({} : TreeDigSettings).validate = .ok () ∧
      (∃ r, ofParams spread {} = .ok r ∧ r.path = "/a" ∧ r.propertyTypes = [.string, .uri] ∧
        r.maxLength = 7 ∧ r.maxDepth = -1) ∧
      ∃ reason, ofParams muddled {} = .error (.validation "maxDepth" reason) := by
  refine ⟨validate_default, ?_, ?_⟩
  · have hseven : Writes " +0007 " 7 := Text.signedNumeral?_trim.mp (by decide)
    obtain ⟨hiff, hstands, -⟩ := ofParams_outcome spread {} validate_default
    have hacceptable : IsAcceptable spread := by
      refine ⟨by decide, fun source hsource => ?_, fun name hname => ?_, fun text htext => ?_,
        fun text htext => ?_⟩
      · cases hsource
      · have hnames : listed spread "propertyTypes" = ["URI", "String"] := by decide
        rw [hnames] at hname
        simp only [List.mem_cons, List.not_mem_nil, or_false] at hname
        rcases hname with rfl | rfl
        · exact ⟨.uri, rfl⟩
        · exact ⟨.string, rfl⟩
      · cases htext
        exact ⟨7, hseven, by decide, by decide⟩
      · cases htext
    obtain ⟨r, hr⟩ := hiff.mpr hacceptable
    obtain ⟨hpath, -, htypes, hlength, hdepth⟩ := (hstands r hr).1
    refine ⟨r, hr, ?_, htypes.trans (by decide), ?_, ?_⟩
    · exact (Option.some.inj hpath).symm
    · exact hseven.unique hlength |>.symm
    · exact hdepth
  · obtain ⟨hiff, -, herror, -⟩ := ofParams_outcome muddled {} validate_default
    have hfirst : Flaw.unreadDepth.IsFirstIn muddled Flaw.inOrder := by
      refine ⟨⟨"x", rfl, fun i hi => absurd hi (not_writes_x i)⟩,
        [.noPath, .badPattern, .unknownType, .unreadLength], _, rfl, ?_⟩
      simp only [List.forall_mem_cons, List.not_mem_nil, false_implies, implies_true, and_true]
      refine ⟨by unfold Flaw.IsIn; decide, ?_, ?_, ?_⟩
      · rintro ⟨source, hsource, -⟩
        cases hsource
      · rintro ⟨name, hname, -⟩
        cases hname
      · rintro ⟨text, htext, hunread⟩
        cases htext
        exact hunread (-2) (Text.signedNumeral?_trim.mp (by decide)) (by decide)
    cases hr : ofParams muddled {} with
    | ok r => exact absurd hfirst.1 (isAcceptable_iff.mp (hiff.mp ⟨r, hr⟩) .unreadDepth (by decide))
    | error e =>
      obtain ⟨flaw, reason, hflaw, rfl⟩ := herror e hr
      obtain rfl := hflaw.unique hfirst
      exact ⟨reason, rfl⟩

/-- A limit beyond the integers of 64 bits is written as a numeral, and is refused where texts are read:
before a depth that is no numeral. -/
theorem ofParams_overflow :
    let params : RequestParams :=
      KeyMap.ofList [("path", ["/"]), ("maxLength", ["9223372036854775808"]), ("maxDepth", ["x"])]
    Writes "9223372036854775808" (2 ^ 63) ∧ (∀ i, ¬Writes "x" i) ∧
      ofParams params {} = .error (.invalidValue "maxLength" "9223372036854775808") := by
  intro params
  refine ⟨Text.signedNumeral?_trim.mp (by decide), not_writes_x, ?_⟩
  have hpath : first? params "path" = some "/" := rfl
  rw [ofParams, hpath]
  dsimp only
  rw [ofSettings_eq PathPattern.ofSource?_default]
  rfl

end Unbounded

end DigRequest

end Sentinel
