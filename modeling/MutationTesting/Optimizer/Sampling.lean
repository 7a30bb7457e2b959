import MutationTesting.Optimizer.Impact

/-!
# Sampling

Candidates are grouped by place and strategy.  Of each group only the best stay: a third of a
cluster, and a limited number for each function.
-/

namespace MutationTesting.Optimizer

/-- Lines in one bucket.  A bucket stands in for the function around a line. -/
def bucketSize : Int := 50

/-- The file and the bucket of a candidate. -/
structure FunctionKey where
  filePath : String
  bucket : Int
deriving DecidableEq, Repr

def functionKey (m : Mutation) : FunctionKey := ⟨m.filePath, m.line.fdiv bucketSize⟩

namespace FunctionKey

/-- Keys are ordered by file, then by bucket. -/
def le (a b : FunctionKey) : Bool :=
  decide (a.filePath < b.filePath) ||
    (decide (a.filePath = b.filePath) && decide (a.bucket ≤ b.bucket))

end FunctionKey

/-- The groups of items with one key, in ascending order of the keys. -/
def groups {α κ : Type} [DecidableEq κ] (key : α → κ) (le : κ → κ → Bool) (items : List α) :
    List (List α) :=
  ((items.map key).eraseDups.mergeSort le).map fun k => items.filter fun item => key item = k

/-- The best first; candidates of one score stay in order. -/
def byImpact (cs : List Candidate) : List Candidate :=
  cs.mergeSort fun a b => decide (b.impact ≤ a.impact)

/-- How many candidates of a cluster stay: all of a small one, else a third. -/
def sampleSize (n : Nat) : Nat := if n ≤ 3 then n else max 2 ((n + 2) / 3)

/-- The best candidates of a cluster.  A small cluster keeps its order. -/
def sample (cluster : List Candidate) : List Candidate :=
  if cluster.length ≤ 3 then cluster
  else (byImpact cluster).take (sampleSize cluster.length)

def functionGroups (cs : List Candidate) : List (List Candidate) :=
  groups (fun c => functionKey c.mutation) FunctionKey.le cs

def strategyGroups (cs : List Candidate) : List (List Candidate) :=
  groups (fun c => c.mutation.strategy) (fun a b => decide (a ≤ b)) cs

/-- The samples of all clusters, a cluster being the candidates of one strategy in one function. -/
def sampleClusters (cs : List Candidate) : List Candidate :=
  (functionGroups cs).flatMap fun group => (strategyGroups group).flatMap sample

/-- The first items of a list; a negative count says how many to leave out at the end. -/
def takeUpTo {α : Type} (count : Int) (items : List α) : List α :=
  if count < 0 then items.take (items.length - count.natAbs) else items.take count.toNat

/-- The best candidates of every function. -/
def limitPerFunction (limit : Int) (cs : List Candidate) : List Candidate :=
  (functionGroups cs).flatMap fun group => takeUpTo limit (byImpact group)

end MutationTesting.Optimizer
