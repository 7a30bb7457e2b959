import MutationTesting.Number.Decimal
import MutationTesting.Optimizer.Boundary
import MutationTesting.Optimizer.Equivalence
import MutationTesting.Optimizer.Impact
import MutationTesting.Optimizer.Options
import MutationTesting.Optimizer.Sampling

/-!
# Choosing the mutations to run

`optimize` scores all mutations, drops those that change nothing or touch only simple code, samples
the rest, and puts the boundary mutations back in front.  A report says what it removed.
-/

namespace MutationTesting.Optimizer

def dropEquivalent (cs : List Candidate) : List Candidate :=
  cs.filter fun c => !isEquivalent c.mutation

def dropSimple (minComplexity : Int) (cs : List Candidate) : List Candidate :=
  cs.filter fun c => decide (minComplexity ≤ complexity c.mutation)

/-- All boundary mutations of `preserved`, followed by the other candidates. -/
def boundaryFirst (preserved cs : List Candidate) : List Candidate :=
  preserved.filter (fun c => isBoundary c.mutation) ++ cs.filter fun c => !isBoundary c.mutation

/-- The candidates that enabled options keep. -/
def select (o : Options) (scored : List Candidate) : List Candidate :=
  let limited :=
    limitPerFunction o.maxPerFunction (sampleClusters (dropSimple o.minComplexity
      (dropEquivalent scored)))
  if o.keepsBoundary then boundaryFirst scored limited else limited

/-- The mutations to run.  Without enabled options all are kept, in order. -/
def optimize (o : Options) (mutations : List Mutation) : List Candidate :=
  if o.enabled then select o (score mutations) else score mutations

structure Report where
  originalCount : Nat
  optimizedCount : Nat
  reduction : Int
  /-- The reduction as a percentage with one decimal place. -/
  reductionPercentage : Binary64
  /-- How many candidates each strategy keeps, the most first. -/
  byStrategy : List (String × Nat)
  /-- The mean score with two decimal places. -/
  averageImpact : Binary64
deriving DecidableEq, Repr

/-- Larger counts first, names in order among equal counts. -/
def countOrder (a b : String × Nat) : Bool :=
  decide (b.2 < a.2) || (decide (a.2 = b.2) && decide (a.1 ≤ b.1))

def strategyCounts (cs : List Candidate) : List (String × Nat) :=
  let names := cs.map (·.mutation.strategy)
  (names.eraseDups.map fun name => (name, names.count name)).mergeSort countOrder

/-- The report on a list of candidates that was reduced to another one. -/
def report (originalCount : Nat) (optimized : List Candidate) : Report :=
  let optimizedCount := optimized.length
  let reduction : Int := (originalCount : Int) - optimizedCount
  let total : Int := optimized.foldr (fun c total => c.impact + total) 0
  { originalCount, optimizedCount, reduction
    reductionPercentage :=
      if originalCount = 0 then Binary64.zero
      else Binary64.percentage reduction originalCount 1
    byStrategy := strategyCounts optimized
    averageImpact :=
      if optimizedCount = 0 then Binary64.zero
      else (Binary64.quotient total optimizedCount).roundPlaces 2 }

end MutationTesting.Optimizer
