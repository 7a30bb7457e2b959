import MutationTesting.Proofs.Tree.Graft

/-!
# Shapes and grafts

The shape of a tree tells how many nodes it has, and which shape stands at every position.  So a graft
changes the shape of a tree if it changes the number of nodes, or if it puts a node of another shape in
the place.  A node of the same shape leaves the shape of the whole as it was.
-/

namespace MutationTesting.Tree

mutual

/-- The number of nodes of a tree; a list has those of its items. -/
def nodeCount : Tree → Nat
  | .list items => nodeCounts items
  | .node _ _ fields => nodeCounts fields + 1
  | _ => 0
termination_by structural t => t

def nodeCounts : List Tree → Nat
  | [] => 0
  | t :: rest => nodeCount t + nodeCounts rest
termination_by structural ts => ts

end

mutual

theorem nodeCount_shape : ∀ t : Tree, nodeCount t.shape = nodeCount t
  | .list items => by rw [shape, nodeCount, nodeCount, nodeCounts_shapes items]
  | .node kind line fields => by rw [shape, nodeCount, nodeCount, nodeCounts_shapes fields]
  | .absent | .text _ | .number _ | .literal _ => rfl

theorem nodeCounts_shapes : ∀ ts : List Tree, nodeCounts (shapes ts) = nodeCounts ts
  | [] => rfl
  | t :: rest => by rw [shapes, nodeCounts, nodeCounts, nodeCount_shape t, nodeCounts_shapes rest]

end

end MutationTesting.Tree
