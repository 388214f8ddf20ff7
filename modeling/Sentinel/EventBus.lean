import Sentinel.Json.Basic
/-!
# Event bus

Events go to every subscriber in the order in which they were posted. The bus keeps as many as its
capacity; a subscriber that falls further behind is told how many it missed.

Correspondence (operation of the component ↔ definition):
  `BroadcastEventBus.new`, `subscribe`, `post`   ↔ `withCapacity`, `subscribe`, `post`
  `recv` of a subscriber, as often as it answers ↔ `receive`
-/

namespace Sentinel

structure BusEvent where
  topic : String
  properties : Attributes

/-- A bus with all that was ever posted; of this the newest `capacity` events can still be had. -/
structure EventBus where
  capacity : Nat
  posted : List BusEvent

/-- A subscriber, with the number of events that it has passed. -/
structure Subscription where
  position : Nat
deriving DecidableEq, Repr

/-- What a subscriber gets: an event, or the number of those that it missed. -/
inductive Received where
  | event (e : BusEvent)
  | lagged (missed : Nat)

namespace EventBus

def defaultCapacity : Nat := 1024

/-- A bus that keeps at least the given number of events: the next power of two. -/
def withCapacity (n : Nat) : EventBus := ⟨(max 1 n).nextPowerOfTwo, []⟩

def post (b : EventBus) (e : BusEvent) : EventBus := { b with posted := b.posted ++ [e] }

/-- A subscription to what is posted from now on. -/
def subscribe (b : EventBus) : Subscription := ⟨b.posted.length⟩

/-- All that a subscriber can get now. -/
def receive (b : EventBus) (s : Subscription) : List Received × Subscription :=
  let waiting := b.posted.drop s.position
  let missed := waiting.length - b.capacity
  let lagged := if missed = 0 then [] else [.lagged missed]
  (lagged ++ (waiting.drop missed).map .event, b.subscribe)

end EventBus

end Sentinel
