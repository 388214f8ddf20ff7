import Sentinel.Error
import Sentinel.Pattern.Meaning
/-!
# Path patterns

A pattern that a path must match as a whole. The text of the pattern stands in a group between the
start and the end of the path. The engine that compiles the text also bounds the size of what it
builds from it; how it measures is not modelled, so the decision is a parameter, `SizeLimit`.

Correspondence (operation of the component ↔ definition):
  `PathPattern.new`            ↔ `ofSource?`; the text that it compiles: `anchored`
  `PathPattern.matches`        ↔ `accepts`
  `PathPattern.as_str`         ↔ the field `source`
  the size limit of the engine ↔ `SizeLimit.admits`
-/

namespace Sentinel

/-- A pattern with its source text. -/
structure PathPattern where
  source : String
  expression : Pattern.Expression

namespace PathPattern

/-- The text that is read in place of a source, so that matches begin at the start of a path and
end at its end. -/
def anchored (source : String) : List Char := "^(?:".toList ++ source.toList ++ ")$".toList

end PathPattern

/-- Which texts the engine finds small enough, once it has read them as patterns. Nothing is known of
the sizes but that the pattern which digs have by default, `^/.*$`, stays within the limit. -/
class SizeLimit where
  admits : List Char → Bool
  admits_default : admits (PathPattern.anchored "^/.*$") = true

/-- A limit that no pattern exceeds. -/
@[reducible]
def SizeLimit.unbounded : SizeLimit := ⟨fun _ => true, rfl⟩

namespace PathPattern

def ofSource? [SizeLimit] (source : String) : Except DispatchError PathPattern :=
  match Pattern.Expression.ofText? (anchored source) with
  | some expression =>
    if SizeLimit.admits (anchored source) then .ok ⟨source, expression⟩
    else .error (.invalidValue "pattern" source)
  | none => .error (.invalidValue "pattern" source)

def accepts (p : PathPattern) (path : String) : Bool := p.expression.matchesWithin path.toList

end PathPattern

end Sentinel
