import Sentinel.Dig.Tree
/-!
# Digging by recursion

A second account of a dig, without a stack: a walk visits a node and then walks through each of its
children in turn. Reading the properties of a node, listing its children and submitting a job may
fail at any point, and both accounts end with the same state and the same first error.

1. `walkStack_eq_walkAll`: the stack that a dig keeps stands for the walks that are still to be made.
2. `walkStack_root`: a dig from a root on is the walk through the root.
-/

namespace Sentinel.Dig

mutual

/-- Walks through a node: visits it, and then what lies below it down to a depth. -/
def walk (scope : DigScope) (bound : Option Nat) : ContentNode → Digs Unit
  | .mk path depth properties children => do
    visit scope (.mk path depth properties children)
    if bound.all (depth < ·) then walkBelow scope bound children else pure ()

def walkBelow (scope : DigScope) (bound : Option Nat) :
    Except RepositoryError (List ContentNode) → Digs Unit
  | .error e => throw (.repositoryAccess e)
  | .ok nodes => walkAll scope bound nodes

def walkAll (scope : DigScope) (bound : Option Nat) : List ContentNode → Digs Unit
  | [] => pure ()
  | n :: ns => do
    walk scope bound n
    walkAll scope bound ns

end

variable {scope : DigScope} {bound : Option Nat}

theorem walkAll_append (xs ys : List ContentNode) :
    walkAll scope bound (xs ++ ys) =
      (walkAll scope bound xs >>= fun _ => walkAll scope bound ys) := by
  induction xs with
  | nil => rw [List.nil_append, walkAll, pure_bind]
  | cons x xs ih => rw [List.cons_append, walkAll, walkAll, ih, bind_assoc]

/-- A walk visits the node and then walks through the children that are within the bound. -/
theorem walk_eq (n : ContentNode) :
    walk scope bound n =
      (visit scope n >>= fun _ =>
        match n.childList bound with
        | .error e => throw (.repositoryAccess e)
        | .ok children => walkAll scope bound children) := by
  obtain ⟨path, depth, properties, children⟩ := n
  have hc : (ContentNode.mk path depth properties children).childList bound =
      if bound.all (depth < ·) then children else .ok [] := rfl
  rw [walk, hc]
  congr 1
  funext _
  by_cases hd : bound.all (depth < ·)
  · rw [if_pos hd, if_pos hd]
    cases children <;> rw [walkBelow]
  · rw [if_neg hd, if_neg hd]
    show pure () = walkAll scope bound []
    rw [walkAll]

theorem walkStack_eq_walkAll (stack : List ContentNode) :
    walkStack scope bound stack = walkAll scope bound stack := by
  match stack with
  | [] => rw [walkStack, walkAll]
  | n :: rest =>
    rw [walkStack, walkAll, walk_eq, bind_assoc]
    congr 1
    funext _
    split
    · rename_i e he
      rw [he]
      rfl
    · rename_i children hc
      have hlt := ContentNode.total_childList_lt hc
      rw [hc, walkStack_eq_walkAll (children ++ rest), walkAll_append]
termination_by ContentNode.total stack
decreasing_by
  rw [ContentNode.total_append, ContentNode.total]
  omega

theorem walkStack_root (root : ContentNode) :
    walkStack scope bound [root] = walk scope bound root := by
  rw [walkStack_eq_walkAll, walkAll, walkAll]
  exact bind_pure_unit

end Sentinel.Dig
