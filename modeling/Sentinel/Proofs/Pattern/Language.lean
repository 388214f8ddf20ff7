import Sentinel.Pattern.Expression
/-!
# What an expression matches

The language of an expression: which parts of a text it matches, given the characters on both sides of
the part. Empty rounds of a repetition count like any others. The search through partial derivatives
finds a match exactly where the language has one.

1. `rounds_cons`: the first round of a repetition that is not empty, and how many rounds are left.
2. `allowsEmpty_iff`: the test for the empty text decides whether it is in the language.
3. `matches_cons`: the partial derivatives by a character are what is left to match behind it.
4. `search_iff`, `matchesWithin_iff`: the search finds a match at some place of the text.
5. `matchesWithin_whole`: between the start and the end of the text, a match is one of the whole text.
-/

namespace Sentinel.Pattern

/-- What may stand in a text: a text with the character before it and the character behind it. -/
abbrev Occurs := Option Char → List Char → Option Char → Prop

/-- The character behind a spot, where a text and then another character follow. -/
def ahead (w : List Char) (after : Option Char) : Option Char := w.head?.or after

/-- The character before a spot, where a character and then a text precede. -/
def behind (before : Option Char) (w : List Char) : Option Char := w.getLast?.or before

@[simp] theorem ahead_nil (after : Option Char) : ahead [] after = after := rfl

@[simp] theorem ahead_cons (c : Char) (w : List Char) (after : Option Char) :
    ahead (c :: w) after = some c := rfl

@[simp] theorem behind_nil (before : Option Char) : behind before [] = before := rfl

@[simp] theorem behind_cons (before : Option Char) (c : Char) (w : List Char) :
    behind before (c :: w) = behind (some c) w := by
  rw [behind, behind, List.getLast?_cons]
  cases w.getLast? <;> rfl

/-- One text behind another. -/
def Follows (P Q : Occurs) : Occurs := fun before w after =>
  ∃ u v, w = u ++ v ∧ P before u (ahead v after) ∧ Q (behind before u) v after

/-- A number of texts one behind the other. -/
def Rounds (P : Occurs) : Nat → Occurs
  | 0 => fun _ w _ => w = []
  | n + 1 => Follows P (Rounds P n)

namespace Expression

/-- Which texts an expression matches, between two characters. -/
def Matches : Expression → Occurs
  | blank => fun _ w _ => w = []
  | chars s => fun _ w _ => ∃ c, w = [c] ∧ s.mem c
  | place p => fun before w after => w = [] ∧ p.holds ⟨before, after⟩
  | concat a b => Follows a.Matches b.Matches
  | either a b => fun before w after => a.Matches before w after ∨ b.Matches before w after
  | repeated a min max => fun before w after =>
    ∃ n, min ≤ n ∧ max.all (n ≤ ·) ∧ Rounds a.Matches n before w after

/-- No repetition asks for more rounds than it admits. -/
def IsProper : Expression → Prop
  | blank | chars _ | place _ => True
  | concat a b | either a b => a.IsProper ∧ b.IsProper
  | repeated a min max => a.IsProper ∧ max.all (min ≤ ·)

end Expression

section Parts

variable {P Q : Occurs} {before after : Option Char} {c : Char} {w : List Char}

theorem follows_nil : Follows P Q before [] after ↔ P before [] after ∧ Q before [] after := by
  constructor
  · rintro ⟨u, v, huv, hP, hQ⟩
    obtain ⟨rfl, rfl⟩ := List.append_eq_nil_iff.mp huv.symm
    exact ⟨hP, hQ⟩
  · rintro ⟨hP, hQ⟩
    exact ⟨[], [], rfl, hP, hQ⟩

theorem follows_cons : Follows P Q before (c :: w) after ↔
    (∃ u v, w = u ++ v ∧ P before (c :: u) (ahead v after) ∧ Q (behind (some c) u) v after) ∨
      (P before [] (some c) ∧ Q before (c :: w) after) := by
  constructor
  · rintro ⟨u, v, huv, hP, hQ⟩
    cases u with
    | nil =>
      obtain rfl : c :: w = v := huv
      exact .inr ⟨hP, hQ⟩
    | cons d u =>
      obtain ⟨rfl, rfl⟩ := List.cons.inj huv
      exact .inl ⟨u, v, rfl, hP, by rwa [behind_cons] at hQ⟩
  · rintro (⟨u, v, rfl, hP, hQ⟩ | ⟨hP, hQ⟩)
    · exact ⟨c :: u, v, rfl, hP, by rwa [behind_cons]⟩
    · exact ⟨[], c :: w, rfl, hP, hQ⟩

theorem rounds_add (hempty : P before [] (ahead w after)) (j : Nat) {n : Nat}
    (h : Rounds P n before w after) : Rounds P (j + n) before w after := by
  induction j with
  | zero => rwa [Nat.zero_add]
  | succ j ih =>
    rw [Nat.succ_add]
    exact ⟨[], w, rfl, hempty, ih⟩

theorem rounds_nil {n : Nat} : Rounds P n before [] after ↔ n = 0 ∨ P before [] after := by
  constructor
  · intro h
    cases n with
    | zero => exact .inl rfl
    | succ n => exact .inr (follows_nil.mp h).1
  · rintro (rfl | hP)
    · rfl
    · exact rounds_add hP n (n := 0) rfl

/-- Rounds that make up a text have a first one that is not empty; those before it are. -/
theorem rounds_cons {n : Nat} (h : Rounds P n before (c :: w) after) :
    ∃ j k u v, n = j + (k + 1) ∧ (j = 0 ∨ P before [] (some c)) ∧ w = u ++ v ∧
      P before (c :: u) (ahead v after) ∧ Rounds P k (behind (some c) u) v after := by
  induction n with
  | zero => cases (show c :: w = [] from h)
  | succ n ih =>
    obtain ⟨u, v, hw, hP, hR⟩ | ⟨hP, hR⟩ := follows_cons.mp h
    · exact ⟨0, n, u, v, by omega, .inl rfl, hw, hP, hR⟩
    · obtain ⟨j, k, u, v, hn, -, hw, hu, hv⟩ := ih hR
      exact ⟨j + 1, k, u, v, by omega, .inr hP, hw, hu, hv⟩

end Parts

namespace Expression

variable {before after : Option Char} {c : Char} {w : List Char}

theorem isProper_followedBy {a b : Expression} (ha : a.IsProper) (hb : b.IsProper) :
    (a.followedBy b).IsProper := by
  unfold followedBy
  split
  · exact hb
  · exact ⟨ha, hb⟩

/-- Nothing is lost where a blank gives way to what stands behind it. -/
theorem matches_followedBy (a b : Expression) :
    (a.followedBy b).Matches before w after ↔ Follows a.Matches b.Matches before w after := by
  unfold followedBy
  split
  · constructor
    · exact fun h => ⟨[], w, rfl, rfl, h⟩
    · rintro ⟨u, v, rfl, rfl, h⟩
      exact h
  · rfl

theorem allowsEmpty_iff {e : Expression} (he : e.IsProper) :
    e.allowsEmpty ⟨before, after⟩ ↔ e.Matches before [] after := by
  induction e with
  | blank => simp [allowsEmpty, Matches]
  | chars s => simp [allowsEmpty, Matches]
  | place p => simp [allowsEmpty, Matches]
  | concat a b iha ihb =>
    rw [allowsEmpty, Bool.and_eq_true, iha he.1, ihb he.2]
    exact follows_nil.symm
  | either a b iha ihb =>
    rw [allowsEmpty, Bool.or_eq_true, iha he.1, ihb he.2]
    rfl
  | repeated a min max ih =>
    rw [allowsEmpty, Bool.or_eq_true, ih he.1, beq_iff_eq]
    constructor
    · rintro (rfl | h)
      · exact ⟨0, Nat.le_refl 0, by cases max <;> simp, rfl⟩
      · exact ⟨min, Nat.le_refl min, he.2, rounds_nil.mpr (.inr h)⟩
    · rintro ⟨n, hmin, -, h⟩
      obtain rfl | h := rounds_nil.mp h
      · exact .inl (Nat.le_zero.mp hmin)
      · exact .inr h

/-- What is left of a repetition when one of its rounds has begun, and was not empty. -/
def roundsLeft (a : Expression) (min : Nat) (max : Option Nat) (s : Spot) : Expression :=
  repeated a (if a.allowsEmpty s then 0 else min - 1) (max.map (· - 1))

theorem isProper_roundsLeft {a : Expression} {min : Nat} {max : Option Nat}
    (h : (repeated a min max).IsProper) (s : Spot) : (roundsLeft a min max s).IsProper := by
  refine ⟨h.1, ?_⟩
  cases max with
  | none => rfl
  | some m =>
    have hm : min ≤ m := by simpa using h.2
    simp only [Option.map_some, Option.all_some, decide_eq_true_eq]
    split <;> omega

/-- Rounds that do not make up the empty text are a round that is not empty, and what is left of the
repetition. The empty rounds before it count toward the minimum. -/
theorem matches_repeated_cons {a : Expression} {min : Nat} {max : Option Nat}
    (h : (repeated a min max).IsProper) : (repeated a min max).Matches before (c :: w) after ↔
      max ≠ some 0 ∧ ∃ u v, w = u ++ v ∧ a.Matches before (c :: u) (ahead v after) ∧
        (roundsLeft a min max ⟨before, some c⟩).Matches (behind (some c) u) v after := by
  constructor
  · rintro ⟨n, hmin, hmax, hn⟩
    obtain ⟨j, k, u, v, rfl, hj, hw, hu, hv⟩ := rounds_cons hn
    refine ⟨?_, u, v, hw, hu, k, ?_, ?_, hv⟩
    · rintro rfl
      simp at hmax
    · split
      · omega
      · next hempty =>
        rw [allowsEmpty_iff h.1] at hempty
        have hj := hj.resolve_right hempty
        omega
    · cases max with
      | none => rfl
      | some m =>
        have hm : j + (k + 1) ≤ m := by simpa using hmax
        simp only [Option.map_some, Option.all_some, decide_eq_true_eq]
        omega
  · rintro ⟨hmax, u, v, rfl, hu, k, hmin, hk, hv⟩
    have hround : Rounds a.Matches (k + 1) before (c :: (u ++ v)) after :=
      ⟨c :: u, v, rfl, hu, by rwa [behind_cons]⟩
    have hroom : max.all (k + 1 ≤ ·) := by
      cases max with
      | none => rfl
      | some m =>
        have hm : m ≠ 0 := fun h => hmax (congrArg some h)
        have hk : k ≤ m - 1 := by simpa using hk
        simp only [Option.all_some, decide_eq_true_eq]
        omega
    by_cases hle : min ≤ k + 1
    · exact ⟨k + 1, hle, hroom, hround⟩
    · -- only empty rounds, in any number, can make up for what the minimum lacks
      have hempty : a.allowsEmpty ⟨before, some c⟩ := by
        by_cases hyes : a.allowsEmpty ⟨before, some c⟩
        · exact hyes
        · rw [if_neg hyes] at hmin
          omega
      have hempty := (allowsEmpty_iff h.1).mp hempty
      refine ⟨min, Nat.le_refl min, h.2, ?_⟩
      have hadd := rounds_add hempty (min - (k + 1)) hround
      rwa [Nat.sub_add_cancel (by omega)] at hadd

theorem partials_repeated (a : Expression) (min : Nat) (max : Option Nat) :
    (repeated a min max).partials before c =
      if max = some 0 then []
      else (a.partials before c).map (·.followedBy (roundsLeft a min max ⟨before, some c⟩)) := rfl

theorem isProper_partials {e d : Expression} (he : e.IsProper) (hd : d ∈ e.partials before c) :
    d.IsProper := by
  induction e generalizing d with
  | blank => cases hd
  | place p => cases hd
  | chars s =>
    rw [partials] at hd
    split at hd
    · rw [List.mem_singleton.mp hd]
      trivial
    · cases hd
  | concat a b iha ihb =>
    rw [partials, List.mem_append] at hd
    obtain hd | hd := hd
    · obtain ⟨d', hd', rfl⟩ := List.mem_map.mp hd
      exact isProper_followedBy (iha he.1 hd') he.2
    · split at hd
      · exact ihb he.2 hd
      · cases hd
  | either a b iha ihb =>
    rw [partials, List.mem_append] at hd
    exact hd.elim (iha he.1) (ihb he.2)
  | repeated a min max ih =>
    rw [partials_repeated] at hd
    split at hd
    · cases hd
    · obtain ⟨d', hd', rfl⟩ := List.mem_map.mp hd
      exact isProper_followedBy (ih he.1 hd') (isProper_roundsLeft he _)

/-- What is left of an expression and then another one, where the first matched a character. -/
theorem exists_followedBy {a b : Expression}
    (ih : ∀ {u after}, a.Matches before (c :: u) after ↔
      ∃ d ∈ a.partials before c, d.Matches (some c) u after) :
    (∃ d ∈ (a.partials before c).map (·.followedBy b), d.Matches (some c) w after) ↔
      ∃ u v, w = u ++ v ∧ a.Matches before (c :: u) (ahead v after) ∧
        b.Matches (behind (some c) u) v after := by
  constructor
  · rintro ⟨d, hd, hw⟩
    obtain ⟨d', hd', rfl⟩ := List.mem_map.mp hd
    obtain ⟨u, v, huv, hu, hv⟩ := (matches_followedBy d' b).mp hw
    exact ⟨u, v, huv, ih.mpr ⟨d', hd', hu⟩, hv⟩
  · rintro ⟨u, v, huv, hu, hv⟩
    obtain ⟨d, hd, hu⟩ := ih.mp hu
    exact ⟨_, List.mem_map_of_mem hd, (matches_followedBy d b).mpr ⟨u, v, huv, hu, hv⟩⟩

/-- The partial derivatives by a character are what is left to match behind it. -/
theorem matches_cons {e : Expression} (he : e.IsProper) :
    e.Matches before (c :: w) after ↔ ∃ d ∈ e.partials before c, d.Matches (some c) w after := by
  induction e generalizing w after with
  | blank => simp [Matches, partials]
  | place p => simp [Matches, partials]
  | chars s =>
    constructor
    · rintro ⟨d, hd, hmem⟩
      obtain ⟨rfl, rfl⟩ := List.cons.inj hd
      exact ⟨blank, by simp [partials, hmem], rfl⟩
    · rintro ⟨d, hd, hw⟩
      rw [partials] at hd
      split at hd
      · next hmem =>
        obtain rfl := List.mem_singleton.mp hd
        obtain rfl : w = [] := hw
        exact ⟨c, rfl, hmem⟩
      · cases hd
  | concat a b iha ihb =>
    rw [partials]
    simp only [List.mem_append, or_and_right, exists_or]
    rw [exists_followedBy (iha he.1)]
    refine follows_cons.trans (or_congr_right ?_)
    rw [← allowsEmpty_iff he.1, ihb he.2]
    by_cases hempty : a.allowsEmpty ⟨before, some c⟩
    · simp only [hempty, if_true, true_and]
    · simp only [hempty, if_false, false_and, List.not_mem_nil, exists_false, Bool.false_eq_true]
  | either a b iha ihb =>
    rw [partials]
    simp only [List.mem_append, or_and_right, exists_or]
    exact or_congr (iha he.1) (ihb he.2)
  | repeated a min max ih =>
    rw [matches_repeated_cons he, partials_repeated]
    split
    · next hmax => simp [hmax]
    · next hmax => simp only [exists_followedBy (ih he.1), ne_eq, hmax, not_false_eq_true, true_and]

/-- The search goes on from the matches that began earlier, and begins one at every spot. -/
theorem search_iff {e : Expression} {states : List Expression} (he : e.IsProper)
    (hstates : ∀ d ∈ states, d.IsProper) (cs : List Char) : e.search states before cs ↔
      (∃ d ∈ states, ∃ u v, cs = u ++ v ∧ d.Matches before u v.head?) ∨
        ∃ t u v, cs = t ++ (u ++ v) ∧ e.Matches (behind before t) u v.head? := by
  induction cs generalizing states before with
  | nil =>
    have hall : ∀ d ∈ e :: states, d.IsProper := List.forall_mem_cons.mpr ⟨he, hstates⟩
    rw [search, List.any_eq_true]
    constructor
    · rintro ⟨d, hd, hempty⟩
      have hd' := (allowsEmpty_iff (hall d hd)).mp hempty
      obtain rfl | hd := List.mem_cons.mp hd
      · exact .inr ⟨[], [], [], rfl, hd'⟩
      · exact .inl ⟨d, hd, [], [], rfl, hd'⟩
    · rintro (⟨d, hd, u, v, huv, hm⟩ | ⟨t, u, v, huv, hm⟩)
      · obtain ⟨rfl, rfl⟩ := List.append_eq_nil_iff.mp huv.symm
        exact ⟨d, List.mem_cons_of_mem e hd, (allowsEmpty_iff (hstates d hd)).mpr hm⟩
      · obtain ⟨rfl, hrest⟩ := List.append_eq_nil_iff.mp huv.symm
        obtain ⟨rfl, rfl⟩ := List.append_eq_nil_iff.mp hrest
        exact ⟨e, List.mem_cons_self, (allowsEmpty_iff he).mpr hm⟩
  | cons c cs ih =>
    have hall : ∀ d ∈ e :: states, d.IsProper := List.forall_mem_cons.mpr ⟨he, hstates⟩
    have hnext : ∀ d ∈ ((e :: states).flatMap (·.partials before c)).eraseDups, d.IsProper := by
      intro d hd
      obtain ⟨d', hd', hd⟩ := List.mem_flatMap.mp (List.mem_eraseDups.mp hd)
      exact isProper_partials (hall d' hd') hd
    rw [search, Bool.or_eq_true, List.any_eq_true, ih hnext]
    simp only [List.mem_eraseDups, List.mem_flatMap]
    constructor
    · rintro (⟨d, hd, hempty⟩ | ⟨d, ⟨d', hd', hd⟩, u, v, rfl, hm⟩ | ⟨t, u, v, rfl, hm⟩)
      · have hm := (allowsEmpty_iff (hall d hd)).mp hempty
        obtain rfl | hd := List.mem_cons.mp hd
        · exact .inr ⟨[], [], c :: cs, rfl, hm⟩
        · exact .inl ⟨d, hd, [], c :: cs, rfl, hm⟩
      · have hm := (matches_cons (hall d' hd')).mpr ⟨d, hd, hm⟩
        obtain rfl | hd' := List.mem_cons.mp hd'
        · exact .inr ⟨[], c :: u, v, rfl, hm⟩
        · exact .inl ⟨d', hd', c :: u, v, rfl, hm⟩
      · exact .inr ⟨c :: t, u, v, rfl, by rwa [behind_cons]⟩
    · -- a match that begins here is empty, or one of the partial derivatives goes on with it
      have hhere : ∀ d ∈ e :: states, ∀ u v, c :: cs = u ++ v → d.Matches before u v.head? →
          (∃ d ∈ e :: states, d.allowsEmpty ⟨before, some c⟩) ∨
            ∃ d, (∃ d' ∈ e :: states, d ∈ d'.partials before c) ∧
              ∃ u v, cs = u ++ v ∧ d.Matches (some c) u v.head? := by
        intro d hd u v huv hm
        cases u with
        | nil =>
          obtain rfl : c :: cs = v := huv
          exact .inl ⟨d, hd, (allowsEmpty_iff (hall d hd)).mpr hm⟩
        | cons c' u =>
          obtain ⟨rfl, hcs⟩ := List.cons.inj huv
          obtain ⟨d', hd', hm⟩ := (matches_cons (hall d hd)).mp hm
          exact .inr ⟨d', ⟨d, hd, hd'⟩, u, v, hcs, hm⟩
      rintro (⟨d, hd, u, v, huv, hm⟩ | ⟨t, u, v, huv, hm⟩)
      · exact (hhere d (List.mem_cons_of_mem e hd) u v huv hm).imp_right .inl
      · cases t with
        | nil => exact (hhere e List.mem_cons_self u v huv hm).imp_right .inl
        | cons c' t =>
          obtain ⟨rfl, hcs⟩ := List.cons.inj huv
          rw [behind_cons] at hm
          exact .inr (.inr ⟨t, u, v, hcs, hm⟩)

/-- The search finds a match exactly where some part of the text is in the language. -/
theorem matchesWithin_iff {e : Expression} (he : e.IsProper) (cs : List Char) :
    e.matchesWithin cs ↔ ∃ t u v, cs = t ++ (u ++ v) ∧ e.Matches t.getLast? u v.head? := by
  rw [matchesWithin, search_iff he (by simp)]
  simp [behind]

/-- An expression between the start and the end of a text. -/
def whole (e : Expression) : Expression := concats [place .textStart, e, place .textEnd]

theorem isProper_whole {e : Expression} (he : e.IsProper) : e.whole.IsProper :=
  ⟨trivial, he, trivial, trivial⟩

theorem matches_whole {e : Expression} : e.whole.Matches before w after ↔
    before = none ∧ after = none ∧ e.Matches none w none := by
  constructor
  · rintro ⟨_, v, rfl, ⟨rfl, hstart⟩, u, x, rfl, hu, _, y, rfl, ⟨rfl, hend⟩, rfl⟩
    have hbefore : before = none := by simpa [Place.holds] using hstart
    have hafter : after = none := by simpa [Place.holds] using hend
    subst hbefore hafter
    exact ⟨rfl, rfl, by simpa using hu⟩
  · rintro ⟨rfl, rfl, h⟩
    exact ⟨[], w, rfl, ⟨rfl, rfl⟩, w, [], (List.append_nil w).symm, h, [], [], rfl, ⟨rfl, rfl⟩, rfl⟩

/-- Between the start and the end of the text, the search finds a match exactly where the whole text
is in the language. -/
theorem matchesWithin_whole {e : Expression} (he : e.IsProper) (cs : List Char) :
    e.whole.matchesWithin cs ↔ e.Matches none cs none := by
  rw [matchesWithin_iff (isProper_whole he)]
  constructor
  · rintro ⟨t, u, v, rfl, hm⟩
    obtain ⟨ht, hv, hu⟩ := matches_whole.mp hm
    obtain rfl := List.getLast?_eq_none_iff.mp ht
    obtain rfl := List.head?_eq_none_iff.mp hv
    simpa using hu
  · intro hm
    exact ⟨[], cs, [], by simp, matches_whole.mpr ⟨rfl, rfl, hm⟩⟩

end Expression

end Sentinel.Pattern
