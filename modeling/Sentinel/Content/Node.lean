import Sentinel.Content.Property
import Sentinel.Error
/-!
# Nodes

A node of a content tree with all that lies below it. Reading the properties of a node, or listing
its children, may fail.

1. `total_childList_lt`: the nodes below a node are fewer than those from the node on.

Correspondence (operation of the component ↔ definition):
  `ContentNode`, with all that its calls answer ↔ `ContentNode`
  `path`, `depth`, `properties`, `children`     ↔ the functions of these names
-/

namespace Sentinel

/-- A node with its path, the number of its ancestors, its properties and its children. -/
inductive ContentNode where
  | mk (path : String) (depth : Nat) (properties : Except RepositoryError (List ContentProperty))
      (children : Except RepositoryError (List ContentNode))

namespace ContentNode

def path : ContentNode → String
  | mk path _ _ _ => path

/-- The number that says how deep a node lies. -/
def depth : ContentNode → Nat
  | mk _ depth _ _ => depth

def properties : ContentNode → Except RepositoryError (List ContentProperty)
  | mk _ _ properties _ => properties

def children : ContentNode → Except RepositoryError (List ContentNode)
  | mk _ _ _ children => children

mutual

/-- The number of nodes from a node on. -/
def size : ContentNode → Nat
  | mk _ _ _ children => sizeBelow children + 1

/-- The number of nodes in a listing. -/
def sizeBelow : Except RepositoryError (List ContentNode) → Nat
  | .error _ => 0
  | .ok nodes => total nodes

/-- The number of nodes from the nodes of a list on. -/
def total : List ContentNode → Nat
  | [] => 0
  | n :: ns => n.size + total ns

end

mutual

/-- A node and all that lies below it, parents before children; a node whose children cannot be
listed counts as having none. -/
def preorder : ContentNode → List ContentNode
  | mk path depth properties children => mk path depth properties children :: preorderBelow children

/-- The nodes of a listing and all that lies below them. -/
def preorderBelow : Except RepositoryError (List ContentNode) → List ContentNode
  | .error _ => []
  | .ok nodes => preorderAll nodes

/-- The nodes of a list and all that lies below them. -/
def preorderAll : List ContentNode → List ContentNode
  | [] => []
  | n :: ns => n.preorder ++ preorderAll ns

end

/-- The nodes below a node that a walk goes on to: none where the node lies as deep as is allowed. -/
def childList (bound : Option Nat) (n : ContentNode) : Except RepositoryError (List ContentNode) :=
  if bound.all (n.depth < ·) then n.children else .ok []

theorem total_append (xs ys : List ContentNode) : total (xs ++ ys) = total xs + total ys := by
  induction xs with
  | nil => simp [total]
  | cons x xs ih => simp [total, ih, Nat.add_assoc]

theorem total_childList_lt {bound : Option Nat} {n : ContentNode} {cs : List ContentNode}
    (h : n.childList bound = .ok cs) : total cs < n.size := by
  obtain ⟨path, depth, properties, children⟩ := n
  simp only [childList, ContentNode.children] at h
  split at h
  · subst h
    simp [size, sizeBelow]
  · cases h
    simp [size, total]

end ContentNode

end Sentinel
