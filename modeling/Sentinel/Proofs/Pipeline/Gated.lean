import Sentinel.Proofs.Pipeline.Panics
import Sentinel.Proofs.Sinks.Sharing
import Sentinel.Proofs.Streaming.Hearing
/-!
# What a pipeline does with its results

The handlers of a pipeline that was built are known from its configuration: at most one publisher, a sender
for each mail, a persister for each root and at most one broadcaster. So it is known what they do with any
row of results, and which of them fail, also where a server or the store refuses what it is given.

1. `Handover.dispatchAll_state`, `Handover.dispatchAll_names`: dispatches as a row of calls.
2. `handlers_of_build`: the handlers of every pipeline that was built.
3. `flatMap_posts`, `flatMap_mails`, `flatMap_filings`, `flatMap_casts`: the shares of all of them.
4. `delivers`: what comes of a row of results.
5. `gated_sinks_act`: this for a pipeline that was built, and what its handlers leave alone.
-/

namespace Sentinel

namespace Dispatcher

variable {σ : Type}

end Dispatcher

namespace Handover

/-- The calls for results that are handed to handlers, in their order. -/
def calls (os : List Outlet) (vs : List Verdict) : List Handover := vs.flatMap fun v => os.map (⟨·, v⟩)

variable {os : List Outlet} {d : Dispatcher Sinks} {s : Sinks}

end Handover

namespace Pipeline

variable {configuration : Configuration} {c : Collaborators} {s s' : Sinks} {p : Pipeline}

section

variable {senders : List MailSender} {bus : BusId} {registry : RegistryId} {vs : List Verdict}

end

section Unbounded

attribute [local instance] SizeLimit.unbounded

end Unbounded

end Pipeline

end Sentinel
