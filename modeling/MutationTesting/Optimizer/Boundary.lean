import MutationTesting.Mutation.Basic

/-!
# Boundary mutations

A comparison that includes or excludes its limit is where tests most often leave a gap.  Mutations
that change to or from such a comparison are boundary mutations.
-/

namespace MutationTesting.Optimizer

/-- Comparisons in which the limit itself matters. -/
def isBoundaryComparator : Comparator → Bool
  | .eq | .notEq | .gtE | .ltE | .is | .isNot => true
  | _ => false

/-- The operators of a comparison chain. -/
def comparators? : Tree → Option (List Comparator)
  | .node .compare _ [_, .list operators, _] =>
    operators.mapM fun operator =>
      match operator with
      | .node (.comparator c) _ _ => some c
      | _ => none
  | _ => none

/-- The operators before and after, at the first place where they differ. -/
def changedComparators? : List Comparator → List Comparator → Option (Comparator × Comparator)
  | a :: as, b :: bs => if a = b then changedComparators? as bs else some (a, b)
  | _, _ => none

def isBoundary (m : Mutation) : Bool :=
  m.strategy == Strategy.comparison.name &&
    match comparators? m.original, comparators? m.replacement with
    | some before, some after =>
      (match changedComparators? before after with
        | none => after.any isBoundaryComparator
        | some (a, b) => isBoundaryComparator a || isBoundaryComparator b)
    | _, _ => false

end MutationTesting.Optimizer
