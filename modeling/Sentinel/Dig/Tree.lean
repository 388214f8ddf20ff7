import Sentinel.Content.Node
import Sentinel.Dig.Emission
/-!
# Digging a tree

A dig visits the nodes of a tree from a root on, parents before children and siblings in order, down
to a depth below the root. The nodes that are still to be visited wait on a stack. The first error
ends the dig.

Correspondence (operation of the component ↔ definition):
  `TreeDigger.dig`                         ↔ `Dig.tree`
  its checks, its limit of depth, its loop ↔ `checkScope`, `bound`, `walkStack`
  `TreeDigger.visit`                       ↔ `Dig.visit`
-/

namespace Sentinel

/-- What a dig looks for: paths, types, and values and nodes within limits. -/
structure DigScope where
  accepts : String → Bool
  types : List PropertyType
  maxLength : Int
  maxDepth : Int

namespace Dig

/-- Refuses a scope with a limit below minus one or without types. -/
def checkScope (scope : DigScope) : Except DispatchError Unit := do
  Limit.check "maxLength" scope.maxLength
  Limit.check "maxDepth" scope.maxDepth
  if scope.types.isEmpty then .error (.validation "propertyTypes" "At least one property type is required")
  else .ok ()

/-- Submits the jobs for the properties that a scope takes. -/
def emitProperties (scope : DigScope) : List ContentProperty → Digs Unit
  | [] => pure ()
  | p :: ps => do
    if scope.types.contains p.propertyType && scope.accepts p.path then
      emit p scope.maxLength none
    emitProperties scope ps

def visit (scope : DigScope) (n : ContentNode) : Digs Unit := do
  count fun c => { c with nodesVisited := c.nodesVisited + 1 }
  match n.properties with
  | .error e => throw (.repositoryAccess e)
  | .ok ps => emitProperties scope ps

/-- Visits the nodes of a stack and all that lies below them, down to a depth. -/
def walkStack (scope : DigScope) (bound : Option Nat) : List ContentNode → Digs Unit
  | [] => pure ()
  | n :: rest => do
    visit scope n
    match _h : n.childList bound with
    | .error e => throw (.repositoryAccess e)
    | .ok children => walkStack scope bound (children ++ rest)
termination_by stack => ContentNode.total stack
decreasing_by
  have := ContentNode.total_childList_lt _h
  simp only [ContentNode.total_append, ContentNode.total]
  omega

/-- The depth that a dig from a root goes down to, where there is a limit. -/
def bound (root : ContentNode) (scope : DigScope) : Option Nat :=
  if scope.maxDepth < 0 then none else some (root.depth + scope.maxDepth.toNat)

def tree (root : ContentNode) (scope : DigScope) : Digs DigSummary := do
  match checkScope scope with
  | .error e => throw e
  | .ok () =>
    modify fun s => { s with summary := {} }
    walkStack scope (bound root scope) [root]
    return (← get).summary

end Dig

end Sentinel
