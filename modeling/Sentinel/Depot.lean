import Sentinel.JobQueue
/-!
# Jobs in the hands of consumers

A job queue with those who take jobs out of it. A consumer is handed all waiting jobs below its root at
once and then works on one after the other; in the meantime jobs are submitted, taken out, or handed to
other consumers, in any order.

Correspondence (operation of the component ↔ definition):
  `JobConsumer`                                ↔ `JobConsumer`
  `run_pending`, up to where it takes jobs out ↔ `DepotOperation.hand`
  one `consume` in `run_pending`               ↔ `DepotOperation.consume`
-/

namespace Sentinel

/-- Who is handed the jobs whose topic lies below a root. -/
structure JobConsumer (σ : Type) where
  root : String
  consume : QueuedJob → σ → JobOutcome × σ

/-- The jobs that a consumer was handed: those that it has consumed, with their outcomes, and those that
are still to be consumed. -/
structure Batch (σ : Type) where
  consumer : JobConsumer σ
  outcomes : List (QueuedJob × JobOutcome)
  pending : List QueuedJob

/-- All jobs of a batch, in the order in which they are consumed. -/
def Batch.jobs {σ : Type} (b : Batch σ) : List QueuedJob := b.outcomes.map (·.1) ++ b.pending

/-- A queue with the batches that were handed to consumers, the jobs that were taken out otherwise, and
what the consumers change. -/
structure Depot (σ : Type) where
  queue : JobQueue
  batches : List (Batch σ)
  takings : List (List QueuedJob)
  state : σ

/-- An operation on a queue, or the next job of a batch. -/
inductive DepotOperation (σ : Type) where
  | submit (topic : String) (attributes : Attributes)
  | setRejecting (rejecting : Bool)
  | hand (c : JobConsumer σ)
  | consume (batch : Nat)
  | takeAll

namespace Depot

variable {σ : Type}

def start (s : σ) : Depot σ := ⟨.empty, [], [], s⟩

def work (d : Depot σ) (batch : Nat) (b : Batch σ) (j : QueuedJob) (rest : List QueuedJob) : Depot σ :=
  let (outcome, state) := b.consumer.consume j d.state
  { d with
    batches := d.batches.set batch { b with outcomes := b.outcomes ++ [(j, outcome)], pending := rest }
    state }

def step (d : Depot σ) : DepotOperation σ → Depot σ
  | .submit topic attributes =>
    match d.queue.submit topic attributes with
    | .ok queue => { d with queue }
    | .error _ => d
  | .setRejecting rejecting => { d with queue := d.queue.setRejecting rejecting }
  | .hand c =>
    let (jobs, queue) := d.queue.takeBelow c.root
    { d with queue, batches := d.batches ++ [⟨c, [], jobs⟩] }
  | .consume batch =>
    match d.batches[batch]? with
    | none => d
    | some b =>
      match b.pending with
      | [] => d
      | j :: rest => d.work batch b j rest
  | .takeAll =>
    let (jobs, queue) := d.queue.takeAll
    { d with queue, takings := d.takings ++ [jobs] }

def run (ops : List (DepotOperation σ)) (s : σ) : Depot σ := ops.foldl step (start s)

end Depot

end Sentinel
