/-!
# Events of a stream

An event is written to a client as two fields and a blank line.

Correspondence (operation of the component ↔ definition):
  `SseEvent.to_wire` ↔ `StreamEvent.wire`
-/

namespace Sentinel

structure StreamEvent where
  kind : String
  data : String
deriving DecidableEq, Repr

def findingEventKind : String := "contentscan/property/result"

/-- The event as it is written: a field for its kind, one for its data, and a blank line. -/
def StreamEvent.wire (e : StreamEvent) : String := "event: " ++ e.kind ++ "\ndata: " ++ e.data ++ "\n\n"

end Sentinel
