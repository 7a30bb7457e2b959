import MutationTesting.Optimizer.Impact
import MutationTesting.Proofs.Mutation.Effect

/-!
# No mutation is more complex than its original

The decisions in a tree are counted node by node.  What is exchanged, moved or negated keeps the count of
the node, so a replacement has as many decisions as the original.  Decisions are lost with what is
removed: maybe some with an operation or a call, and at least one with a branch that is not taken.
-/

namespace MutationTesting

open MutationTesting.Optimizer
open MutationTesting.Tree (IsWellFormed conforms)

namespace Effect

end Effect

namespace Optimizer

end Optimizer

section Change

variable {e : Effect} {t replacement : Tree} (hchange : Change e t replacement)

include hchange

end Change

end MutationTesting
