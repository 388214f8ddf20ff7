import Sentinel.Proofs.Content.Pieces
import Sentinel.Proofs.Running
/-!
# Scanning in pieces

An engine reads a stream to its end, into one buffer after the other, and judges what it has gathered. A
signature may lie across the ends of buffers, and a stream may announce a wrong number of bytes: neither
changes what the engine says.

1. `scanInto?_eq`: a scan through buffers of any sizes is `Engine.scan`, and no read in it is refused.
2. `scan_eq_ofBytes`: what is announced plays no part.
3. `tells_resultFor`: what an engine says of some bytes, with an error status and without one.
4. `scans_whole_value`: all reads together give the value, and what is said of it depends on its bytes, the
   signatures and the error status.
5. `scan_differs_overloaded`: the bytes and the signatures alone do not decide what is said.
-/

namespace Sentinel

namespace ValueStream

theorem contents_eq_remaining (s : ValueStream) : s.contents = s.reader.remaining :=
  s.reader.readAll_fst

theorem readToEnd?_eq {s : ValueStream} (h : s.reader.InRange) (rooms : Nat → Room) :
    s.readToEnd? rooms =
      some (s.contents, { s with reader := ⟨s.reader.data, s.reader.data.length⟩ }) := by
  rw [readToEnd?, ByteReader.readToEnd?_eq h, contents_eq_remaining]
  rfl

end ValueStream

namespace Engine

/-- Scans a stream that is read to its end into one buffer after the other. An engine that fails reads
nothing. -/
def scanInto? (rooms : Nat → Room) (e : Engine) (stream : ValueStream) :
    Option (Except ScanError ScanResult × Engine) :=
  if e.failing then some (.error (.engineUnavailable e.name "simulated failure"), e.afterScan)
  else (stream.readToEnd? rooms).map fun (data, _) => (.ok (e.resultFor data), e.afterScan)

theorem scan_eq_ofBytes (e : Engine) (stream : ValueStream) :
    e.scan stream = e.scan (.ofBytes stream.contents) := by
  have hcontents : (ValueStream.ofBytes stream.contents).contents = stream.contents :=
    ValueStream.contents_eq_remaining _
  simp only [scan, hcontents]

theorem scanInto?_eq {stream : ValueStream} (h : stream.reader.InRange) (rooms : Nat → Room)
    (e : Engine) : e.scanInto? rooms stream = some (e.scan stream) := by
  rw [scanInto?]
  cases hf : e.failing with
  | true =>
    rw [scan_failing hf]
    rfl
  | false =>
    rw [scan_eq_ofBytes, scan_ofBytes hf, stream.readToEnd?_eq h]
    rfl

/-- What an engine with some signatures says of some bytes. An error status takes the place of the
judgement. -/
structure Tells (signatures : List Signature) (errorStatus : Option String) (data : Bytes)
    (result : ScanResult) : Prop where
  size : result.size = data.length
  forced : ∀ text ∈ errorStatus, result.status = .error ∧ result.message = text
  judged : errorStatus = none → Judges signatures data result

theorem tells_resultFor (e : Engine) (data : Bytes) :
    Tells e.signatures e.errorStatus data (e.resultFor data) := by
  refine ⟨rfl, ?_, fun he => judges_resultFor he data⟩
  intro text htext
  have hverdict : e.verdict data = (.error, text) := by
    rw [verdict, Option.mem_def.mp htext]
  rw [resultFor, hverdict]
  exact ⟨rfl, rfl⟩

theorem verdict_congr {e e' : Engine} (hs : e.signatures = e'.signatures)
    (he : e.errorStatus = e'.errorStatus) (data : Bytes) : e.verdict data = e'.verdict data := by
  rw [verdict, verdict, detect?, detect?, hs, he]

/-- Reads of some bytes from the start, into any buffers. None of them is refused, each copies as many
bytes as are left and its buffer has room for, the pieces are the start of the bytes, and reading on to the
end gives the rest; a stream over the bytes reads as the reader does, whatever it announces. So an engine
that scans the stream through any buffers says what it says of the bytes in one piece. Unless it fails, the
size is their number, and the status and the message depend on the bytes, the signatures and the error
status. -/
theorem scans_whole_value (data : Bytes) (buffers : List Bytes) :
    (∃ fills r, readsInto? ByteReader.readInto? (.start data) buffers = some (fills, r) ∧
      (ByteReader.start data).readEach (buffers.map List.length) = (fills.map Fill.piece, r) ∧
      Spread data buffers fills r ∧
      ∀ announced,
        readsInto? ValueStream.readInto? ⟨.start data, announced⟩ buffers = some (fills, ⟨r, announced⟩) ∧
        ∀ rooms, ValueStream.readToEnd? rooms ⟨r, announced⟩ =
          some (r.readAll.1, ⟨⟨data, data.length⟩, announced⟩)) ∧
    (∀ (e : Engine) (rooms : Nat → Room) (announced : Option Nat),
      e.scanInto? rooms ⟨.start data, announced⟩ = some (e.scan (.ofBytes data))) ∧
    ∀ (signatures : List Signature) (errorStatus : Option String), ∃ status message, ∀ e : Engine,
      e.signatures = signatures → e.errorStatus = errorStatus →
        (e.failing = true → e.scan (.ofBytes data) =
          (.error (.engineUnavailable e.name "simulated failure"), e.afterScan)) ∧
        (e.failing = false → ∃ result, e.scan (.ofBytes data) = (.ok result, e.afterScan) ∧
          result.status = status ∧ result.message = message ∧
          Tells signatures errorStatus data result) := by
  refine ⟨?_, ?_, ?_⟩
  · obtain ⟨fills, r, hreads, hpieces, hspread⟩ := ByteReader.spread_readsInto? data buffers
    refine ⟨fills, r, hreads, hpieces, hspread, fun announced => ⟨?_, fun rooms => ?_⟩⟩
    · rw [ValueStream.readsInto?_eq, hreads]
      rfl
    · rw [ValueStream.readToEnd?, hspread.restInto]
      rfl
  · intro e rooms announced
    rw [scanInto?_eq (ByteReader.inRange_start data), scan_eq_ofBytes,
      ValueStream.contents_eq_remaining]
    rfl
  · intro signatures errorStatus
    let probe : Engine := { withClock fun _ => default with signatures, errorStatus }
    refine ⟨(probe.resultFor data).status, (probe.resultFor data).message, ?_⟩
    rintro e rfl rfl
    refine ⟨fun hf => scan_failing hf _, fun hf => ⟨e.resultFor data, scan_ofBytes hf data, ?_⟩⟩
    have hverdict : e.verdict data = probe.verdict data := verdict_congr rfl rfl data
    have hstatus : (e.resultFor data).status = (probe.resultFor data).status := by
      rw [resultFor, hverdict]
      rfl
    have hmessage : (e.resultFor data).message = (probe.resultFor data).message := by
      rw [resultFor, hverdict]
      rfl
    exact ⟨hstatus, hmessage, tells_resultFor e data⟩

/-- A signature that lies across the ends of two buffers is found, in a stream that announces too few
bytes. What was in the last buffer stays behind the last bytes. -/
theorem scans_whole_value_across :
    let marker : Signature := ⟨"Test.Marker", [3, 4]⟩
    let e : Engine := { withClock fun _ => default with signatures := [marker] }
    let reads := readsInto? ByteReader.readInto? (.start [1, 2, 3, 4, 5]) [[9, 9, 9], [], [9, 9, 9, 9]]
    reads = some ([⟨3, [1, 2, 3]⟩, ⟨0, []⟩, ⟨2, [4, 5, 9, 9]⟩], ⟨[1, 2, 3, 4, 5], 5⟩) ∧
      ∃ result, e.scanInto? (fun _ => ⟨[0, 0, 0], by decide⟩) ⟨.start [1, 2, 3, 4, 5], some 1⟩ =
          some (.ok result, e.afterScan) ∧
        result.size = 5 ∧ result.status = .infected ∧ result.message = "Test.Marker FOUND" := by
  intro marker e reads
  have hreads : reads = some ([⟨3, [1, 2, 3]⟩, ⟨0, []⟩, ⟨2, [4, 5, 9, 9]⟩], ⟨[1, 2, 3, 4, 5], 5⟩) := by
    decide
  obtain ⟨-, hinto, hdecides⟩ := scans_whole_value [1, 2, 3, 4, 5] [[9, 9, 9], [], [9, 9, 9, 9]]
  obtain ⟨status, message, hdecides⟩ := hdecides [marker] none
  obtain ⟨result, hscan, -, -, htells⟩ := (hdecides e rfl rfl).2 rfl
  have hjudges := htells.judged rfl
  have hmarks : marker.Marks [1, 2, 3, 4, 5] := Signature.isIn_iff.mp (by decide)
  have hinfected := hjudges.infected.mpr ⟨marker, List.mem_singleton_self marker, hmarks⟩
  obtain ⟨before, g, after, hsplit, -, -, hmessage⟩ := hjudges.named hinfected
  have hg : g ∈ [marker] := hsplit ▸ List.mem_append_right before List.mem_cons_self
  refine ⟨hreads, result, ?_, htells.size, hinfected, ?_⟩
  · rw [hinto, hscan]
  · rw [hmessage, List.mem_singleton.mp hg]
    decide

/-- An engine that reports an error status of any value. -/
def overloaded : Engine := { withClock fun _ => default with errorStatus := some "engine overloaded" }

/-- Two engines with the same signatures do not say the same of the same bytes if one of them has an error
status. So the bytes and the signatures do not decide the status and the message. -/
theorem scan_differs_overloaded :
    overloaded.signatures = (withClock fun _ => default).signatures ∧
      ((withClock fun _ => default).scan (.ofBytes [120])).1 = .ok (.make .ok "" default default 1) ∧
      (overloaded.scan (.ofBytes [120])).1 = .ok (.make .error "engine overloaded" default default 1) ∧
      ¬∃ told : Bytes → List Signature → ScanStatus × String, ∀ (e : Engine) data result,
        (e.scan (.ofBytes data)).1 = .ok result →
          (result.status, result.message) = told data e.signatures := by
  have hidle : ((withClock fun _ => default).scan (.ofBytes [120])).1 =
      .ok (.make .ok "" default default 1) := by rfl
  have hforced : (overloaded.scan (.ofBytes [120])).1 =
      .ok (.make .error "engine overloaded" default default 1) := by rfl
  refine ⟨rfl, hidle, hforced, ?_⟩
  rintro ⟨told, htold⟩
  have hsame := (htold _ _ _ hidle).trans (htold _ _ _ hforced).symm
  cases congrArg Prod.fst hsame

end Engine

end Sentinel
