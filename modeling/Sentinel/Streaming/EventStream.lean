import Sentinel.Streaming.Registry
/-!
# Event streams

The body of one streaming response: a client whose transport is a channel, and the reading end of
the channel. Each frame that is read makes room, so the client's queue moves on.

Correspondence (operation of the component ↔ definition):
  `channel_client`               ↔ `EventStream.openOn`
  `SseStream.poll_next`, `close` ↔ `EventStream.poll`, `EventStream.close`
-/

namespace Sentinel

structure EventStream where
  client : ClientId
  transport : TransportId
  done : Bool
deriving DecidableEq, Repr

/-- The most frames that a channel can be made for. -/
def maxFrames : Nat := UInt64.size / 8 - 1

namespace EventStream

/-- Opens a stream that holds at most so many frames, and at least one. A number beyond what a
channel can hold is no error but a panic. -/
def openOn (l : Live) (capacity : Nat) : Option (EventStream × Live) :=
  if maxFrames < capacity then none
  else
    let (transport, connections) := l.connections.add (.channel { capacity := max 1 capacity })
    let (client, l) := { l with connections }.register transport
    some (⟨client, transport, false⟩, l)

def close (s : EventStream) (l : Live) : EventStream × Live :=
  if s.done then (s, l)
  else
    let stopReading : Transport → Transport
      | .channel c => .channel { c with receiverOpen := false }
      | t => t
    let l := { l with connections := l.connections.modify s.transport stopReading }
    ({ s with done := true }, (l.remove s.client .completed).2)

def poll (s : EventStream) (l : Live) : Poll × EventStream × Live :=
  if s.done then (.ended, s, l)
  else
    match l.connections.get s.transport with
    | .recorder _ => (.pending, s, l)
    | .channel c =>
      let (result, c) := c.receive
      match result with
      | .frame text =>
        let l := { l with connections := l.connections.modify s.transport fun _ => .channel c }
        (.frame text, s, l.onWritable s.client)
      | .ended =>
        let (s, l) := s.close l
        (.ended, s, l)
      | .pending => (.pending, s, l)

end EventStream

end Sentinel
