import Mathlib.Data.List.Sort
import Sentinel.Proofs.Content.Reachable
import Sentinel.Proofs.Path.Order
/-!
# Descents

A descent lists the paths of a node and of what lies below it, parents before children and children
in the order of the repository, down to a depth. In a sound repository this is a list that needs no
descent: the paths of nodes that the first path leads to, sorted by their segments.

1. `mem_childPaths`: the paths listed below a node are those of nodes with one segment more.
2. `mem_descent`, `pairwise_descent`: which paths a descent lists, and that it lists them in order.
3. `descent_eq_covered`: a descent is the sorted list of the paths that are covered.
-/

namespace Sentinel

namespace Path

/-- One path does not stand behind another. -/
def UpTo (p q : String) : Prop := byteSegments p ≤ byteSegments q

instance : DecidableRel UpTo := fun p q =>
  inferInstanceAs (Decidable (byteSegments p ≤ byteSegments q))

instance : Std.Total UpTo := ⟨fun _ _ => Std.le_total⟩

instance : IsTrans String UpTo := ⟨fun _ _ _ hpq hqr => Std.le_trans hpq hqr⟩

end Path

namespace Repository

open Sentinel.Path (segments depth)

variable {r : Repository} {bound : Option Nat} {p q : String}

/-- The paths from a path down to a depth, parents before children. -/
def descent (r : Repository) (bound : Option Nat) (p : String) : List String :=
  p :: if bound.all (depth p < ·) then
    (r.childPaths p).attach.flatMap fun ⟨q, _⟩ => r.descent bound q
  else []
termination_by r.longest + 1 - p.length
decreasing_by
  rename_i h
  exact measure_childPaths_lt h

/-- The paths of the nodes from a path down to a depth below it, in the order of their segments. -/
def covered (r : Repository) (p : String) (maxDepth : Int) : List String :=
  (r.nodes.keys.filter fun q =>
    Path.leadsTo p q && (maxDepth = -1 || (depth q : Int) ≤ depth p + maxDepth)).insertionSort Path.UpTo

theorem descent_eq (r : Repository) (bound : Option Nat) (p : String) :
    r.descent bound p =
      p :: if bound.all (depth p < ·) then (r.childPaths p).flatMap (r.descent bound) else [] := by
  rw [descent, List.flatMap_subtype fun _ _ => rfl, List.unattach_attach]

theorem checkAccess_of_failing_nil (hf : r.failing = []) (p : String) : r.checkAccess p = .ok () := by
  rw [checkAccess, hf]
  rfl

/-- Where access to a node does not fail, its view holds the views of its children. -/
theorem view_of_access (h : r.checkAccess p = .ok ()) (d : Nat) :
    r.view p d = .mk p d (r.propertiesAt p) (.ok ((r.childPaths p).map (r.view · (d + 1)))) := by
  rw [view, h]
  show ContentNode.mk _ _ _ (.ok (List.map _ _)) = _
  rw [List.map_subtype fun _ _ => rfl, List.unattach_attach]

theorem view_eq (hf : r.failing = []) (p : String) (d : Nat) :
    r.view p d = .mk p d (r.propertiesAt p) (.ok ((r.childPaths p).map (r.view · (d + 1)))) :=
  view_of_access (checkAccess_of_failing_nil hf p) d

theorem mem_childPaths (h : r.IsSound) (hp : Path.IsNormalized p) :
    q ∈ r.childPaths p ↔
      q ∈ r.nodes.keys ∧ ∃ s, Path.IsSegment s ∧ segments q = segments p ++ [s] := by
  obtain ⟨ss, hss, rfl⟩ := hp
  rw [childPaths, List.mem_filter, decide_eq_true_eq, Path.segments_ofSegments hss]
  refine and_congr_right fun hq => ?_
  constructor
  · intro hparent
    have hroot : q ≠ "/" := by
      rintro rfl
      cases hparent
    obtain ⟨parent, name, hsplit, -, hname, hchild⟩ :=
      Path.exists_split?_of_isNormalized (h.normalized q hq) hroot
    rw [Path.parent?, if_neg hroot, hsplit] at hparent
    have hp : parent = Path.ofSegments ss := Option.some.inj hparent
    refine ⟨name.toList, hname, ?_⟩
    rw [← hchild, hp, Path.child_ofSegments hss]
    exact Path.segments_ofSegments (List.forall_mem_append.mpr ⟨hss, by simpa using hname⟩)
  · rintro ⟨s, hs, hseg⟩
    have hq' : q = Path.ofSegments (ss ++ [s]) := by
      rw [← hseg, Path.ofSegments_segments (h.normalized q hq)]
    have hsplit : Path.split? q = some (Path.ofSegments ss, String.ofList s) := by
      rw [hq', Path.split?_ofSegments ss hs]
    have hroot : q ≠ "/" := by
      rintro rfl
      cases hsplit
    rw [Path.parent?, if_neg hroot, hsplit]
    rfl

theorem all_depth_of_mem_childPaths (h : r.IsSound) (hp : p ∈ r.nodes.keys) (hq : q ∈ r.childPaths p)
    (hb : bound.all (depth p < ·)) : bound.all (depth q ≤ ·) := by
  obtain ⟨-, s, -, hseg⟩ := (mem_childPaths h (h.normalized p hp)).mp hq
  have hd : depth q = depth p + 1 := by
    rw [depth, hseg, List.length_append]
    rfl
  rw [Option.all_eq_true] at hb ⊢
  intro b hbb
  have := hb b hbb
  simp only [decide_eq_true_eq] at this ⊢
  omega

/-- What lies below a node lies on or below one of its children. -/
theorem exists_childPath_of_prefix (h : r.IsSound) (hp : p ∈ r.nodes.keys) (hq : q ∈ r.nodes.keys)
    (hpre : segments p <+: segments q) :
    q = p ∨ depth p < depth q ∧ ∃ c ∈ r.childPaths p, segments c <+: segments q := by
  obtain ⟨rest, hrest⟩ := hpre
  rcases rest with _ | ⟨s, ss⟩
  · rw [List.append_nil] at hrest
    exact .inl (Path.segments_inj (h.normalized q hq) (h.normalized p hp) hrest.symm)
  · have hlead : segments p ++ [s] <+: segments q := ⟨ss, by rw [← hrest]; simp⟩
    have hall : ∀ t ∈ segments p ++ [s], Path.IsSegment t := fun t ht =>
      Path.isSegment_of_mem_segments (hlead.subset ht)
    have hc : segments (Path.ofSegments (segments p ++ [s])) = segments p ++ [s] :=
      Path.segments_ofSegments hall
    refine .inr ⟨?_, Path.ofSegments (segments p ++ [s]), ?_, by rwa [hc]⟩
    · rw [depth, depth, ← hrest, List.length_append, List.length_cons]
      omega
    · exact (mem_childPaths h (h.normalized p hp)).mpr
        ⟨h.ancestors q hq _ hlead, s, hall s (by simp), hc⟩

theorem mem_descent {p q : String} (h : r.IsSound) (hp : p ∈ r.nodes.keys)
    (hb : bound.all (depth p ≤ ·)) :
    q ∈ r.descent bound p ↔
      q ∈ r.nodes.keys ∧ segments p <+: segments q ∧ bound.all (depth q ≤ ·) := by
  -- By recursion along the descent: the equivalence holds of each child.
  have ih (c : String) (hc : c ∈ r.childPaths p) (hbc : bound.all (depth c ≤ ·)) :
      q ∈ r.descent bound c ↔
        q ∈ r.nodes.keys ∧ segments c <+: segments q ∧ bound.all (depth q ≤ ·) :=
    mem_descent h (List.mem_filter.mp hc).1 hbc
  rw [descent_eq, List.mem_cons]
  constructor
  · rintro (rfl | hq)
    · exact ⟨hp, List.prefix_refl _, hb⟩
    · split at hq
      · next hlt =>
        obtain ⟨c, hc, hq⟩ := List.mem_flatMap.mp hq
        have hbc := all_depth_of_mem_childPaths h hp hc hlt
        obtain ⟨hqk, hpre, hbq⟩ := (ih c hc hbc).mp hq
        obtain ⟨-, s, -, hseg⟩ := (mem_childPaths h (h.normalized p hp)).mp hc
        rw [hseg] at hpre
        exact ⟨hqk, (List.prefix_append _ _).trans hpre, hbq⟩
      · cases hq
  · rintro ⟨hqk, hpre, hbq⟩
    rcases exists_childPath_of_prefix h hp hqk hpre with rfl | ⟨hd, c, hc, hpc⟩
    · exact .inl rfl
    · have hlt : bound.all (depth p < ·) := by
        rw [Option.all_eq_true] at hbq ⊢
        intro b hbb
        have := hbq b hbb
        simp only [decide_eq_true_eq] at this ⊢
        omega
      rw [if_pos hlt]
      have hbc := all_depth_of_mem_childPaths h hp hc hlt
      exact .inr (List.mem_flatMap.mpr ⟨c, hc, (ih c hc hbc).mpr ⟨hqk, hpc, hbq⟩⟩)
termination_by r.longest + 1 - p.length
decreasing_by exact measure_childPaths_lt hc

theorem pairwise_descent {p : String} (h : r.IsSound) (hp : p ∈ r.nodes.keys) :
    (r.descent bound p).Pairwise Path.Before := by
  have ih (c : String) (hc : c ∈ r.childPaths p) : (r.descent bound c).Pairwise Path.Before :=
    pairwise_descent h (List.mem_filter.mp hc).1
  have hnorm := h.normalized p hp
  rw [descent_eq]
  by_cases hlt : bound.all (depth p < ·)
  · rw [if_pos hlt]
    -- Behind a child's path stand only segments that begin with those of the child.
    have hbelow (c : String) (hc : c ∈ r.childPaths p) :
        ∃ s, c = Path.ofSegments (segments p ++ [s]) ∧
          ∀ q ∈ r.descent bound c, ∃ ss, segments q = segments p ++ s :: ss := by
      obtain ⟨hck, s, -, hseg⟩ := (mem_childPaths h hnorm).mp hc
      refine ⟨s, by rw [← hseg, Path.ofSegments_segments (h.normalized c hck)], fun q hq => ?_⟩
      obtain ⟨-, ⟨ss, hss⟩, -⟩ := (mem_descent h hck (all_depth_of_mem_childPaths h hp hc hlt)).mp hq
      exact ⟨ss, by rw [← hss, hseg]; simp⟩
    refine List.pairwise_cons.mpr ⟨?_, List.pairwise_flatMap.mpr ⟨?_, ?_⟩⟩
    · intro q hq
      obtain ⟨c, hc, hq⟩ := List.mem_flatMap.mp hq
      obtain ⟨s, -, hs⟩ := hbelow c hc
      obtain ⟨ss, hss⟩ := hs q hq
      exact Path.before_of_extends hss
    · intro c hc
      exact ih c hc
    · have hsorted : (r.childPaths p).Pairwise (· < ·) := r.nodes.sorted_keys.filter _
      refine hsorted.imp_of_mem ?_
      intro a b ha hb' hab x hx y hy
      obtain ⟨s, rfl, hs⟩ := hbelow a ha
      obtain ⟨t, rfl, ht⟩ := hbelow b hb'
      obtain ⟨ss, hss⟩ := hs x hx
      obtain ⟨ts, hts⟩ := ht y hy
      exact Path.before_of_branch hss hts (Path.lt_of_child_lt hab)
  · rw [if_neg hlt]
    exact List.pairwise_singleton _ _
termination_by r.longest + 1 - p.length
decreasing_by exact measure_childPaths_lt hc

theorem mem_covered {maxDepth : Int} :
    q ∈ r.covered p maxDepth ↔ q ∈ r.nodes.keys ∧ Path.leadsTo p q = true ∧
      (maxDepth = -1 ∨ (depth q : Int) ≤ depth p + maxDepth) := by
  simp only [covered, List.mem_insertionSort, List.mem_filter, Bool.and_eq_true, Bool.or_eq_true,
    decide_eq_true_eq]

theorem nodup_covered (maxDepth : Int) : (r.covered p maxDepth).Nodup := by
  refine (List.perm_insertionSort _ _).nodup_iff.mpr (List.Pairwise.filter _ ?_)
  exact r.nodes.sorted_keys.imp fun hab => Std.ne_of_lt hab

theorem sorted_covered (maxDepth : Int) : (r.covered p maxDepth).Pairwise Path.UpTo :=
  List.pairwise_insertionSort _ _

/-- A descent from a node down to a number of levels below it is the list of all that is covered. -/
theorem descent_eq_covered (h : r.IsSound) (hp : p ∈ r.nodes.keys) {maxDepth : Int}
    (hd : -1 ≤ maxDepth) :
    r.descent (if maxDepth < 0 then none else some (depth p + maxDepth.toNat)) p =
      r.covered p maxDepth := by
  generalize hbound : (if maxDepth < 0 then none else some (depth p + maxDepth.toNat)) = bound
  have hall (d : Nat) : bound.all (d ≤ ·) = true ↔
      maxDepth = -1 ∨ (d : Int) ≤ depth p + maxDepth := by
    subst hbound
    split
    · simp only [Option.all_none, true_iff]
      omega
    · simp only [Option.all_some, decide_eq_true_eq]
      omega
  have hb : bound.all (depth p ≤ ·) := (hall _).mpr (by omega)
  have hpair : (r.descent bound p).Pairwise Path.Before := pairwise_descent h hp
  have hnodup : (r.descent bound p).Nodup := hpair.imp fun hab hne => by
    subst hne
    exact Std.lt_irrefl hab
  -- Both lists hold the same paths, each once, so sorting leaves them no choice.
  have hperm : List.Perm (r.descent bound p) (r.covered p maxDepth) := by
    refine (List.perm_ext_iff_of_nodup hnodup (nodup_covered maxDepth)).mpr fun q => ?_
    rw [mem_descent h hp hb, mem_covered, hall]
    refine and_congr_right fun hq => ?_
    rw [Path.leadsTo_iff (h.normalized p hp) (h.normalized q hq)]
  refine List.Perm.eq_of_pairwise ?_ (hpair.imp Std.le_of_lt) (sorted_covered maxDepth) hperm
  intro a b ha hb' hab hba
  have ha := ((mem_descent h hp hb).mp ha).1
  have hb' := (mem_covered.mp hb').1
  exact Path.byteSegments_inj (h.normalized a ha) (h.normalized b hb') (Std.le_antisymm hab hba)

/-- What is covered is listed in strictly increasing order. -/
theorem pairwise_covered (h : r.IsSound) (maxDepth : Int) :
    (r.covered p maxDepth).Pairwise Path.Before := by
  refine ((nodup_covered maxDepth).and (sorted_covered maxDepth)).imp_of_mem ?_
  rintro a b ha hb ⟨hne, hle⟩
  refine Std.lt_of_le_of_ne hle fun heq => hne ?_
  exact Path.byteSegments_inj (h.normalized a (mem_covered.mp ha).1)
    (h.normalized b (mem_covered.mp hb).1) heq

end Repository

end Sentinel
