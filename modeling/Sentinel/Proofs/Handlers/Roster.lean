import Mathlib.Data.List.Induction
import Mathlib.Data.List.Nodup
import Sentinel.Desk
/-!
# Who is attached

The handlers of a dispatcher are those that were attached and not detached since, in the order in which
they were attached. No two of the first 2^64 have the same name, and each is detached with success at most
once.

1. `detach_of_mem`, `detach_of_not_mem`: what one detachment does.
2. `Roster.attach`, `Roster.detach`: what becomes of the roster when handlers come and go.
-/

namespace Sentinel

variable {σ : Type}

namespace DeskEvent

/-- The handler that came, with its name. -/
def attachment? : DeskEvent σ → Option (HandlerId × Handler σ)
  | attached id h => some (id, h)
  | _ => none

/-- A handler was to go, whether it was there or not. -/
def isFarewell (id : HandlerId) : DeskEvent σ → Bool
  | detached k _ => k = id
  | _ => false

/-- A handler was there and went. -/
def tookAway (id : HandlerId) : DeskEvent σ → Bool
  | detached k was => k = id && was
  | _ => false

end DeskEvent

open DeskEvent (attachment? isFarewell tookAway)

/-- The handlers that came, with their names. -/
def attachments (es : List (DeskEvent σ)) : List (HandlerId × Handler σ) := es.filterMap attachment?

/-- The handlers that came and were not to go since. -/
def standing : List (DeskEvent σ) → List (HandlerId × Handler σ)
  | [] => []
  | e :: es =>
    match e.attachment? with
    | none => standing es
    | some a => if es.any (isFarewell a.1) then standing es else a :: standing es

theorem standing_sublist (es : List (DeskEvent σ)) : (standing es).Sublist (attachments es) := by
  induction es with
  | nil => exact List.Sublist.refl _
  | cons e es ih =>
    rw [standing, attachments]
    cases he : e.attachment? with
    | none =>
      rw [List.filterMap_cons_none he]
      exact ih
    | some a =>
      rw [List.filterMap_cons_some he]
      dsimp only
      split
      · exact ih.cons a
      · exact ih.cons_cons a

theorem standing_attached (es : List (DeskEvent σ)) (id : HandlerId) (h : Handler σ) :
    standing (es ++ [.attached id h]) = standing es ++ [(id, h)] := by
  induction es with
  | nil => rfl
  | cons e es ih =>
    rw [List.cons_append, standing, standing]
    cases e.attachment? with
    | none => exact ih
    | some a =>
      have hany : (es ++ [DeskEvent.attached id h]).any (isFarewell a.1) = es.any (isFarewell a.1) := by
        rw [List.any_append]
        exact Bool.or_false _
      dsimp only
      rw [hany, ih]
      split <;> rfl

theorem standing_detached (es : List (DeskEvent σ)) (id : HandlerId) (was : Bool) :
    standing (es ++ [.detached id was]) = (standing es).filter (·.1 ≠ id) := by
  induction es with
  | nil => rfl
  | cons e es ih =>
    rw [List.cons_append, standing, standing]
    cases e.attachment? with
    | none => exact ih
    | some a =>
      have hany : (es ++ [DeskEvent.detached id was]).any (isFarewell a.1) =
          (es.any (isFarewell a.1) || decide (id = a.1)) := by
        rw [List.any_append]
        exact congrArg _ (Bool.or_false _)
      dsimp only
      rw [hany, ih]
      by_cases hid : id = a.1
      · cases es.any (isFarewell a.1) <;> simp [hid]
      · cases es.any (isFarewell a.1) <;> simp [hid, Ne.symm hid]

theorem standing_other {e : DeskEvent σ} (es : List (DeskEvent σ)) (hnone : e.attachment? = none)
    (hstays : ∀ id, e.isFarewell id = false) : standing (es ++ [e]) = standing es := by
  induction es with
  | nil => simp [standing, hnone]
  | cons e' es ih =>
    rw [List.cons_append, standing, standing]
    cases e'.attachment? with
    | none => exact ih
    | some a =>
      have hany : (es ++ [e]).any (isFarewell a.1) = es.any (isFarewell a.1) := by
        rw [List.any_append, List.any_cons, hstays]
        exact Bool.or_false _
      dsimp only
      rw [hany, ih]

/-! ## Detaching -/

namespace Dispatcher

variable {d : Dispatcher σ} {id : HandlerId}

theorem filter_of_not_mem (h : id ∉ d.handlers.map (·.1)) :
    d.handlers.filter (·.1 ≠ id) = d.handlers := by
  refine List.filter_eq_self.mpr fun a ha => decide_eq_true fun hid => h ?_
  exact hid ▸ List.mem_map_of_mem ha

theorem detach_of_not_mem (h : id ∉ d.handlers.map (·.1)) : d.detach id = (false, d) := by
  rw [detach, filter_of_not_mem h]
  simp

theorem detach_of_mem (h : id ∈ d.handlers.map (·.1)) :
    d.detach id = (true, { d with handlers := d.handlers.filter (·.1 ≠ id) }) := by
  obtain ⟨a, ha, rfl⟩ := List.mem_map.mp h
  have hlt : (d.handlers.filter (·.1 ≠ a.1)).length < d.handlers.length :=
    List.length_filter_lt_length_iff_exists.mpr ⟨a, ha, by simp⟩
  rw [detach]
  simp only [decide_eq_true (Nat.ne_of_lt hlt)]

end Dispatcher

namespace Desk

theorem run_concat (d : Desk σ) (ops : List (DeskOperation σ)) (op : DeskOperation σ) :
    d.run (ops ++ [op]) = ((d.run ops).1 ++ [((d.run ops).2.step op).1], ((d.run ops).2.step op).2) := by
  rw [run, run, List.foldl_append]
  rfl

end Desk

/-! ## The roster of a run -/

/-- Who is attached, given what happened. -/
structure Roster (es : List (DeskEvent σ)) (d : Dispatcher σ) : Prop where
  handlers : d.handlers = standing es
  next : d.nextId = UInt64.ofNat (attachments es).length
  names : (attachments es).map (·.1) = (List.range (attachments es).length).map UInt64.ofNat
  balance : ∀ id, es.countP (tookAway id) + (d.handlers.map (·.1)).count id =
    ((attachments es).map (·.1)).count id

namespace Roster

variable {es : List (DeskEvent σ)} {d : Dispatcher σ}

theorem nodup_attachments (h : Roster es d) (hn : (attachments es).length ≤ UInt64.size) :
    ((attachments es).map (·.1)).Nodup := by
  rw [h.names]
  -- Names are counted words, and no two numbers below 2^64 become one word.
  refine List.Nodup.map_on (fun m hm n hm' heq => ?_) List.nodup_range
  have hlt {k : Nat} (hk : k ∈ List.range (attachments es).length) : k < UInt64.size :=
    Nat.lt_of_lt_of_le (List.mem_range.mp hk) hn
  have htoNat := congrArg UInt64.toNat heq
  rwa [UInt64.toNat_ofNat_of_lt' (hlt hm), UInt64.toNat_ofNat_of_lt' (hlt hm')] at htoNat

theorem nodup_handlers (h : Roster es d) (hn : (attachments es).length ≤ UInt64.size) :
    (d.handlers.map (·.1)).Nodup := by
  rw [h.handlers]
  exact (h.nodup_attachments hn).sublist ((standing_sublist es).map _)

theorem attach (h : Roster es d) (g : Handler σ) :
    Roster (es ++ [.attached (d.attach g).1 g]) (d.attach g).2 := by
  have hattachments : attachments (es ++ [.attached d.nextId g]) = attachments es ++ [(d.nextId, g)] :=
    List.filterMap_append
  show Roster (es ++ [.attached d.nextId g]) ⟨d.handlers ++ [(d.nextId, g)], d.nextId + 1⟩
  refine ⟨?_, ?_, ?_, fun id => ?_⟩
  · rw [standing_attached, h.handlers]
  · rw [hattachments, List.length_append, h.next, List.length_singleton, UInt64.ofNat_add]
    rfl
  · rw [hattachments, List.map_append, h.names, List.length_append, List.length_singleton,
      List.range_succ, List.map_append, h.next]
    rfl
  · rw [hattachments, List.countP_append, List.map_append, List.map_append, List.count_append,
      List.count_append, ← h.balance id]
    show _ + 0 + _ = _
    omega

/-- Where nobody comes, it is enough that those who are attached are right. -/
theorem of_attachments (h : Roster es d) {es' : List (DeskEvent σ)}
    {handlers : List (HandlerId × Handler σ)} (hsame : attachments es' = attachments es)
    (hhandlers : handlers = standing es')
    (hbalance : ∀ id, es'.countP (tookAway id) + (handlers.map (·.1)).count id =
      es.countP (tookAway id) + (d.handlers.map (·.1)).count id) :
    Roster es' { d with handlers } := by
  refine ⟨hhandlers, ?_, ?_, fun id => ?_⟩
  · rw [hsame]
    exact h.next
  · rw [hsame]
    exact h.names
  · rw [hsame, ← h.balance id]
    exact hbalance id

theorem detach (h : Roster es d) (hn : (attachments es).length ≤ UInt64.size) (id : HandlerId) :
    Roster (es ++ [.detached id (d.detach id).1]) (d.detach id).2 := by
  have hattachments (was : Bool) : attachments (es ++ [.detached id was]) = attachments es :=
    List.filterMap_append.trans (List.append_nil _)
  have hcount (was : Bool) (k : HandlerId) : (es ++ [DeskEvent.detached id was]).countP (tookAway k) =
      es.countP (tookAway k) + if id = k ∧ was = true then 1 else 0 := by
    rw [List.countP_append, List.countP_singleton]
    simp [tookAway]
  have hstanding (was : Bool) :
      d.handlers.filter (·.1 ≠ id) = standing (es ++ [.detached id was]) := by
    rw [standing_detached, h.handlers]
  by_cases hid : id ∈ d.handlers.map (·.1)
  · rw [Dispatcher.detach_of_mem hid]
    refine h.of_attachments (hattachments true) (hstanding true) fun k => ?_
    -- Names do not repeat, so with the name one handler goes and no more.
    have hnodup := h.nodup_handlers hn
    have hfilter : (d.handlers.filter (·.1 ≠ id)).map (·.1) = (d.handlers.map (·.1)).erase id := by
      rw [hnodup.erase_eq_filter, List.filter_map]
      exact congrArg _ (List.filter_congr fun a _ => decide_not)
    rw [hcount, hfilter]
    by_cases hk : id = k
    · subst hk
      have hpos := List.count_pos_iff.mpr hid
      rw [List.count_erase_self, if_pos ⟨rfl, rfl⟩]
      omega
    · rw [List.count_erase_of_ne (Ne.symm hk), if_neg fun hboth => hk hboth.1]
      rfl
  · rw [Dispatcher.detach_of_not_mem hid]
    refine h.of_attachments (hattachments false) ?_ fun k => ?_
    · rw [← hstanding]
      exact (Dispatcher.filter_of_not_mem hid).symm
    · rw [hcount]
      simp

theorem other (h : Roster es d) {e : DeskEvent σ} (hnone : e.attachment? = none)
    (hstays : ∀ id, e.isFarewell id = false) (htook : ∀ id, e.tookAway id = false) :
    Roster (es ++ [e]) d := by
  refine h.of_attachments ?_ ?_ fun id => ?_
  · rw [attachments, List.filterMap_append, List.filterMap_cons_none hnone]
    exact List.append_nil _
  · rw [standing_other es hnone hstays]
    exact h.handlers
  · rw [List.countP_append, List.countP_singleton, if_neg (by simp [htook])]
    rfl

end Roster

end Sentinel
