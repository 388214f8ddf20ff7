import Sentinel.Content.Stream
import Sentinel.Error
import Sentinel.ScanResult
/-!
# Engines

An engine that looks for signatures: rows of bytes with a name. It can be made to fail, to report an
error status, and to be unhealthy, and it counts the scans that were begun.

1. `isWithin_iff`: a signature is found exactly where the bytes hold it in one piece.

Correspondence (operation of the component ↔ definition):
  `MockScanner.new`, `add_signature`               ↔ `Engine.withClock`, `Engine.addSignature`
  `set_failing`, `set_error_status`, `set_healthy` ↔ the fields `failing`, `errorStatus`, `healthy`
  `detect`, `scan`, `health_check`                 ↔ `Engine.detect?`, `Engine.scan`, `Engine.health`
  `scan_count`                                     ↔ the field `scans`
-/

namespace Sentinel

/-- Whether one row of bytes holds another in one piece. -/
def isWithin (pattern : Bytes) : Bytes → Bool
  | [] => pattern.isEmpty
  | b :: bs => pattern.isPrefixOf (b :: bs) || isWithin pattern bs

theorem isWithin_iff {pattern data : Bytes} : isWithin pattern data = true ↔ pattern <:+: data := by
  induction data with
  | nil => simp [isWithin]
  | cons b bs ih => simp [isWithin, ih, List.infix_cons_iff]

/-- A row of bytes that an engine looks for. -/
structure Signature where
  name : String
  pattern : Bytes
deriving DecidableEq, Repr

namespace Signature

/-- The harmless file that every engine reports. -/
def testFile : Signature where
  name := "Eicar-Test-Signature"
  pattern := utf8 "X5O!P%@AP[4\\PZX54(P^)7CC)7\x7d$EICAR-STANDARD-ANTIVIRUS-TEST-FILE!$H+H*"

/-- Whether a signature is found in some bytes; an empty one is found nowhere. -/
def isIn (s : Signature) (data : Bytes) : Bool := !s.pattern.isEmpty && isWithin s.pattern data

end Signature

/-- An engine. The clock gives the start and the end of the n-th scan. -/
structure Engine where
  name : String
  signatures : List Signature
  failing : Bool
  errorStatus : Option String
  healthy : Bool
  scans : Nat
  clock : Nat → Instant × Instant

namespace Engine

/-- An engine that knows the test file only. -/
def withClock (clock : Nat → Instant × Instant) : Engine where
  name := "mock"
  signatures := [.testFile]
  failing := false
  errorStatus := none
  healthy := true
  scans := 0
  clock := clock

/-- The engine with one more signature, which is tried last. -/
def addSignature (e : Engine) (s : Signature) : Engine := { e with signatures := e.signatures ++ [s] }

/-- The name of the first signature that is found in some bytes. -/
def detect? (e : Engine) (data : Bytes) : Option String :=
  (e.signatures.find? (·.isIn data)).map (·.name)

/-- The status and the message for some bytes. -/
def verdict (e : Engine) (data : Bytes) : ScanStatus × String :=
  match e.errorStatus with
  | some message => (.error, message)
  | none =>
    match e.detect? data with
    | some name => (.infected, name ++ " FOUND")
    | none => (.ok, "")

/-- Scans a stream. The scan counts even if the engine fails. -/
def scan (e : Engine) (stream : ValueStream) : Except ScanError ScanResult × Engine :=
  let e := { e with scans := e.scans + 1 }
  if e.failing then (.error (.engineUnavailable e.name "simulated failure"), e)
  else
    let data := stream.contents
    let (status, message) := e.verdict data
    let (started, timestamp) := e.clock e.scans
    (.ok (.make status message started timestamp data.length), e)

def health (e : Engine) : Except ScanError Unit :=
  if e.healthy then .ok () else .error (.engineUnavailable e.name "mock scanner is unhealthy")

end Engine

end Sentinel
