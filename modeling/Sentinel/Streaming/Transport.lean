import Sentinel.Error
/-!
# Transports

How frames get to a client: a recorder keeps what is written and can be made to stall or to fail, a
channel holds a bounded number of frames until they are read.

1. `flatMap_framesOf`: the frames of a text, one behind the other, are the text.

Correspondence (operation of the component ↔ definition):
  `MemoryTransport`, `ChannelTransport`          ↔ `Recorder`, `Channel`
  `is_ready`, `write`, `flush`, `complete`       ↔ `Transport.isReady`, `write`, `flush`, `complete`
  `set_ready`, `set_write_budget`, `set_failing` ↔ the fields `ready`, `budget`, `failing`
  `MemoryTransport.written`, `frames`            ↔ `Recorder.text`, `framesOf`
  `flush_if_ready`                               ↔ `Transport.flushIfReady`
-/

namespace Sentinel

/-- A transport that keeps the frames that are written to it. With a budget it takes no more frames
than that; with a number of frames after which it fails, every later write meets with an error. -/
structure Recorder where
  ready : Bool := true
  budget : Option Nat := none
  failing : Bool := false
  failsAfter : Option Nat := none
  flushFailing : Bool := false
  completed : Bool := false
  flushes : Nat := 0
  written : List String := []
deriving DecidableEq, Repr

namespace Recorder

def isReady (r : Recorder) : Bool := r.budget.all (0 < ·) && r.ready && !r.completed

def write (r : Recorder) (frame : String) : Except TransportError Recorder :=
  if r.completed then .error .closed
  else if r.failing || r.failsAfter = some 0 then .error (.broken "connection reset by peer")
  else .ok { r with
    budget := r.budget.map (· - 1)
    failsAfter := r.failsAfter.map (· - 1)
    written := r.written ++ [frame] }

def flush (r : Recorder) : Except TransportError Recorder :=
  if r.flushFailing then .error .closed else .ok { r with flushes := r.flushes + 1 }

def text (r : Recorder) : String := String.join r.written

end Recorder

/-- The text up to and with the first blank line, and the rest. -/
def splitFrame : List Char → List Char × List Char
  | [] => ([], [])
  | '\n' :: '\n' :: cs => (['\n', '\n'], cs)
  | c :: cs =>
    let (frame, rest) := splitFrame cs
    (c :: frame, rest)

theorem length_splitFrame_snd_le (cs : List Char) :
    (splitFrame cs).2.length ≤ cs.length := by
  fun_induction splitFrame cs with
  | case1 => exact Nat.le_refl _
  | case2 cs =>
    simp only [List.length_cons]
    omega
  | case3 c cs _ frame rest hr ih =>
    rw [hr] at ih
    exact Nat.le_succ_of_le ih

theorem length_splitFrame_snd_lt (c : Char) (cs : List Char) :
    (splitFrame (c :: cs)).2.length < (c :: cs).length := by
  unfold splitFrame
  split
  · rename_i h
    cases h
  · rename_i rest h
    cases h
    simp only [List.length_cons]
    omega
  · rename_i d ds _ h
    cases h
    exact Nat.lt_succ_of_le (length_splitFrame_snd_le cs)

/-- The frames of a text; what stands behind the last blank line is one more. -/
def framesOf (cs : List Char) : List String :=
  match cs with
  | [] => []
  | c :: cs =>
    let split := splitFrame (c :: cs)
    String.ofList split.1 :: framesOf split.2
termination_by cs.length
decreasing_by exact length_splitFrame_snd_lt c cs

theorem splitFrame_append (cs : List Char) : (splitFrame cs).1 ++ (splitFrame cs).2 = cs := by
  fun_induction splitFrame cs with
  | case1 => rfl
  | case2 cs => rfl
  | case3 c cs _ frame rest hr ih =>
    rw [hr] at ih
    rw [List.cons_append, ih]

/-- Nothing of a text is lost between its frames. -/
theorem flatMap_framesOf (cs : List Char) : (framesOf cs).flatMap String.toList = cs := by
  match cs with
  | [] => rw [framesOf]; rfl
  | c :: cs =>
    have hlt := length_splitFrame_snd_lt c cs
    rw [framesOf, List.flatMap_cons, String.toList_ofList, flatMap_framesOf (splitFrame (c :: cs)).2]
    exact splitFrame_append (c :: cs)
termination_by cs.length
decreasing_by exact hlt

/-- A transport that holds frames until they are read. -/
structure Channel where
  capacity : Nat
  buffer : List String := []
  senderOpen : Bool := true
  receiverOpen : Bool := true
deriving DecidableEq, Repr

/-- What reading a channel gives. -/
inductive Poll where
  | frame (text : String)
  | pending
  | ended
deriving DecidableEq, Repr

namespace Channel

def isReady (c : Channel) : Bool := c.senderOpen && c.buffer.length < c.capacity

def write (c : Channel) (frame : String) : Except TransportError Channel :=
  if !c.senderOpen || !c.receiverOpen then .error .closed
  else if c.buffer.length < c.capacity then .ok { c with buffer := c.buffer ++ [frame] }
  else .error (.refused "stream buffer is full")

/-- Reads the oldest frame. The channel ends when it is empty and nothing can be written any more. -/
def receive (c : Channel) : Poll × Channel :=
  match c.buffer with
  | frame :: frames => (.frame frame, { c with buffer := frames })
  | [] => (if c.senderOpen && c.receiverOpen then .pending else .ended, c)

end Channel

/-- A way to a client. -/
inductive Transport where
  | recorder (r : Recorder)
  | channel (c : Channel)
deriving DecidableEq, Repr

/-- A call of a transport, with the error that it met with. -/
inductive TransportCall where
  | write (frame : String) (failure : Option TransportError)
  | flush (failure : Option TransportError)
  | complete
deriving DecidableEq, Repr

namespace Transport

def isReady : Transport → Bool
  | recorder r => r.isReady
  | channel c => c.isReady

def write (frame : String) : Transport → Except TransportError Transport
  | recorder r => (r.write frame).map recorder
  | channel c => (c.write frame).map channel

def flush : Transport → Except TransportError Transport
  | recorder r => r.flush.map recorder
  | channel c => .ok (channel c)

/-- Passes on what was written, unless the transport is not ready. -/
def flushIfReady (t : Transport) : Except TransportError Transport :=
  if t.isReady then t.flush else .ok t

/-- The call that passes on what was written, unless the transport is not ready. -/
def flushCalls (t : Transport) : List TransportCall :=
  if t.isReady then
    match t.flush with
    | .ok _ => [.flush none]
    | .error e => [.flush (some e)]
  else []

/-- Ends the transport: nothing can be written any more. -/
def complete : Transport → Transport
  | recorder r => recorder { r with completed := true }
  | channel c => channel { c with senderOpen := false }

/-- Lets go of the transport. A channel ends with its only writer. -/
def release : Transport → Transport
  | recorder r => recorder r
  | channel c => channel { c with senderOpen := false }

end Transport

end Sentinel
