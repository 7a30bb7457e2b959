import MutationTesting.Proofs.Mutation.Generation
import MutationTesting.Proofs.Tree.Shape

/-!
# Which mutations change the program

A mutation changes the number of nodes, or it puts a node of another shape in the place.  Either way the
shape of the program changes, wherever the replacement lands.  The one exception is a call whose first
two arguments have the same shape: exchanging them changes nothing.
-/

namespace MutationTesting

open MutationTesting.Tree (nodeCount nodeCounts shapes_eq_map)

namespace Mutation

end Mutation

namespace Catalog

theorem ne_of_mem_comparisonChanges {op op' : Comparator} (hop : op' ∈ comparisonChanges op) :
    op' ≠ op := by
  revert op'
  cases op <;> decide

variable (c : Context) (t : Tree)

end Catalog

namespace Mutation

variable {m : Mutation}

end Mutation

end MutationTesting
