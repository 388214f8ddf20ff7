import Sentinel.Streaming.Registry
/-!
# Calls of a transport

What is asked of a transport while a queue is emptied, for every transport and every place at which it
may fail.

1. `frames_write`, `frames_flushIfReady`: a transport keeps what it takes, at the end, and passing on
   changes nothing of that.
2. `accounts_drainQueue`: each frame is taken, lost or still waits, in this order, and nothing is called
   any more once a call has met with an error.
-/

namespace Sentinel

namespace TransportCall

/-- The frame that was taken with the call. -/
def taken? : TransportCall → Option String
  | write frame none => some frame
  | _ => none

/-- The frame that was not taken with the call. -/
def lost? : TransportCall → Option String
  | write frame (some _) => some frame
  | _ => none

/-- The call of a transport that met with an error. -/
def Fails : TransportCall → Prop
  | write _ failure => failure ≠ none
  | flush failure => failure ≠ none
  | complete => False

/-- The call passed something to a transport and met with no error. -/
def IsFine : TransportCall → Prop
  | write _ failure => failure = none
  | flush failure => failure = none
  | complete => False

/-- The frames that were taken. -/
def taken (calls : List TransportCall) : List String := calls.filterMap taken?

/-- The frames that were not taken. -/
def lost (calls : List TransportCall) : List String := calls.filterMap lost?

theorem taken_append (calls more : List TransportCall) :
    taken (calls ++ more) = taken calls ++ taken more := List.filterMap_append

theorem lost_append (calls more : List TransportCall) :
    lost (calls ++ more) = lost calls ++ lost more := List.filterMap_append

theorem lost_of_isFine {calls : List TransportCall} (h : ∀ call ∈ calls, call.IsFine) :
    lost calls = [] := by
  refine List.filterMap_eq_nil_iff.mpr fun call hcall => ?_
  cases call with
  | write frame failure =>
    obtain rfl : failure = none := h _ hcall
    rfl
  | flush failure => rfl
  | complete => rfl

end TransportCall

open TransportCall (taken lost taken_append lost_append lost_of_isFine)

namespace Transport

/-- What a transport has been written, as far as it is still there. -/
def frames : Transport → List String
  | recorder r => r.written
  | channel c => c.buffer

variable {t t' : Transport}

theorem frames_write {frame : String} (h : t.write frame = .ok t') : t'.frames = t.frames ++ [frame] := by
  cases t with
  | recorder r =>
    rw [write, Recorder.write] at h
    split at h
    · cases h
    · split at h
      · cases h
      · cases h
        rfl
  | channel c =>
    rw [write, Channel.write] at h
    split at h
    · cases h
    · split at h
      · cases h
        rfl
      · cases h

theorem frames_flush (h : t.flush = .ok t') : t'.frames = t.frames := by
  cases t with
  | recorder r =>
    rw [flush, Recorder.flush] at h
    split at h
    · cases h
    · cases h
      rfl
  | channel c =>
    cases h
    rfl

theorem frames_flushIfReady (h : t.flushIfReady = .ok t') :
    t'.frames = t.frames ∧ ∀ call ∈ t.flushCalls, call.IsFine := by
  rw [flushIfReady] at h
  rw [flushCalls]
  split at h
  · next hready =>
    rw [if_pos hready, h]
    refine ⟨frames_flush h, fun call hcall => ?_⟩
    rw [List.mem_singleton.mp hcall]
    rfl
  · next hready =>
    cases h
    rw [if_neg hready]
    exact ⟨rfl, fun call hcall => absurd hcall List.not_mem_nil⟩

theorem flushCalls_of_error {e : TransportError} (h : t.flushIfReady = .error e) :
    t.flushCalls = [.flush (some e)] := by
  rw [flushIfReady] at h
  rw [flushCalls]
  split at h
  · next hready => rw [if_pos hready, h]
  · cases h

theorem frames_flushCalls (t : Transport) : taken t.flushCalls = [] ∧ lost t.flushCalls = [] := by
  rw [flushCalls]
  split
  · split <;> exact ⟨rfl, rfl⟩
  · exact ⟨rfl, rfl⟩

end Transport

/-- The calls that emptied a queue into a transport are all accounted for. Each frame of the queue was
taken, was lost or still waits, in this order; the transport keeps those that it took; and either no
call met with an error, or the last one did and none before. -/
structure Drained.Accounts (d : Drained) (t : Transport) (q : List StreamEvent) : Prop where
  frames : taken d.calls ++ lost d.calls ++ d.queue.map StreamEvent.wire = q.map StreamEvent.wire
  kept : d.transport.frames = t.frames ++ taken d.calls
  ending : (d.failure = none ∧ ∀ call ∈ d.calls, call.IsFine) ∨
    (d.failure ≠ none ∧ ∃ fine call, d.calls = fine ++ [call] ∧ (∀ c ∈ fine, c.IsFine) ∧ call.Fails)

/-- What is called before, and goes well, is accounted for as well. -/
theorem Drained.Accounts.after {d : Drained} {t : Transport} {e : StreamEvent} {q : List StreamEvent}
    {start : Transport} (h : d.Accounts t q) (hframes : t.frames = start.frames ++ [e.wire])
    {calls : List TransportCall} (hfine : ∀ call ∈ calls, call.IsFine) (htaken : taken calls = [e.wire]) :
    (d.after calls).Accounts start (e :: q) := by
  refine ⟨?_, ?_, ?_⟩
  · show taken (calls ++ d.calls) ++ lost (calls ++ d.calls) ++ d.queue.map StreamEvent.wire = _
    rw [taken_append, lost_append, lost_of_isFine hfine, htaken, List.map_cons, ← h.frames]
    simp
  · show d.transport.frames = start.frames ++ taken (calls ++ d.calls)
    rw [h.kept, hframes, taken_append, htaken, List.append_assoc]
  · rcases h.ending with ⟨hnone, hall⟩ | ⟨hsome, fine, call, hcalls, hall, hfails⟩
    · exact .inl ⟨hnone, fun call hcall => (List.mem_append.mp hcall).elim (hfine call) (hall call)⟩
    · refine .inr ⟨hsome, calls ++ fine, call, ?_, ?_, hfails⟩
      · show calls ++ d.calls = _
        rw [hcalls, List.append_assoc]
      · exact fun call hcall => (List.mem_append.mp hcall).elim (hfine call) (hall call)

theorem accounts_drainQueue (t : Transport) (q : List StreamEvent) : (drainQueue t q).Accounts t q := by
  -- By induction on the queue, for any transport: each frame leaves another one behind it.
  induction q generalizing t with
  | nil =>
    obtain ⟨htaken, hlost⟩ := t.frames_flushCalls
    rw [drainQueue]
    cases hflush : t.flushIfReady with
    | ok t' =>
      obtain ⟨hframes, hfine⟩ := Transport.frames_flushIfReady hflush
      refine ⟨?_, ?_, .inl ⟨rfl, hfine⟩⟩
      · show taken t.flushCalls ++ lost t.flushCalls ++ [] = []
        rw [htaken, hlost]
        rfl
      · show t'.frames = t.frames ++ taken t.flushCalls
        rw [hframes, htaken, List.append_nil]
    | error e =>
      have hcalls := Transport.flushCalls_of_error hflush
      dsimp only
      rw [hcalls]
      exact ⟨rfl, (List.append_nil _).symm, .inr ⟨nofun, [], _, rfl, by simp, nofun⟩⟩
  | cons e es ih =>
    rw [drainQueue]
    split
    · cases hwrite : t.write e.wire with
      | error f => exact ⟨rfl, (List.append_nil _).symm, .inr ⟨nofun, [], _, rfl, by simp, nofun⟩⟩
      | ok t₁ =>
        have hframes : t₁.frames = t.frames ++ [e.wire] := Transport.frames_write hwrite
        have htaken : taken (.write e.wire none :: t₁.flushCalls) = [e.wire] :=
          congrArg (e.wire :: ·) t₁.frames_flushCalls.1
        dsimp only
        cases hflush : t₁.flushIfReady with
        | error f =>
          have hcalls := Transport.flushCalls_of_error hflush
          dsimp only
          rw [hcalls]
          refine ⟨rfl, hframes, .inr ⟨nofun, [.write e.wire none], _, rfl, ?_, nofun⟩⟩
          intro call hcall
          rw [List.mem_singleton.mp hcall]
          rfl
        | ok t₂ =>
          obtain ⟨hsame, hfine⟩ := Transport.frames_flushIfReady hflush
          refine (ih t₂).after (hsame.trans hframes) (fun call hcall => ?_) htaken
          rcases List.mem_cons.mp hcall with rfl | hcall
          · rfl
          · exact hfine call hcall
    · exact ⟨rfl, (List.append_nil _).symm, .inl ⟨rfl, fun call hcall => absurd hcall List.not_mem_nil⟩⟩

end Sentinel
