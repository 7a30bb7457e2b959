import Mathlib
import MutationTesting.Proofs.Optimizer.Boundary

/-!
# The order of clusters does not matter

A cluster holds the mutations of one strategy in one function.  The optimizer looks at each
cluster by itself and puts what it keeps in an order of its own.  So mutations of different
clusters may come in any order: as long as each cluster keeps its order, the same mutations are
kept, and in one order.
-/

namespace MutationTesting.Optimizer

/-- The function and the strategy that a cluster belongs to. -/
structure ClusterKey where
  function : FunctionKey
  strategy : String
deriving DecidableEq

def clusterKey (m : Mutation) : ClusterKey := ⟨functionKey m, m.strategy⟩

/-- Mutations in another order, in which each cluster has the order that it had.  The list `origins`
says for each place where its mutation was before. -/
structure KeepsClusters (before after : List Mutation) (origins : List Nat) : Prop where
  places : origins.Perm (List.range before.length)
  entries : after.map some = origins.map (before[·]?)
  inOrder : origins.Pairwise fun i j =>
    (before[i]?).map clusterKey = (before[j]?).map clusterKey → i < j

/-- The candidate as it would be at its place before. -/
def Candidate.atOrigin (origins : List Nat) (c : Candidate) : Candidate :=
  { c with place := origins.getD c.place 0 }

section Maps

/-! Stages of the optimizer do not look at the places of candidates. -/

variable {α κ : Type} [DecidableEq κ]

theorem map_groups (key : α → κ) (le : κ → κ → Bool) {f : α → α}
    (hf : ∀ item, key (f item) = key item)
    (items : List α) : (groups key le items).map (List.map f) = groups key le (items.map f) := by
  have hkeys : (items.map f).map key = items.map key := by
    rw [List.map_map]
    exact List.map_congr_left fun item _ => hf item
  rw [groups, groups, hkeys, List.map_map]
  refine List.map_congr_left fun k _ => ?_
  rw [Function.comp_apply, List.filter_map]
  refine congrArg (List.map f) (List.filter_congr fun item _ => ?_)
  rw [Function.comp_apply, hf]

theorem map_takeUpTo (f : α → α) (count : Int) (items : List α) :
    (takeUpTo count items).map f = takeUpTo count (items.map f) := by
  rw [takeUpTo, takeUpTo, List.length_map]
  split <;> exact List.map_take

/-- Functions that change nothing but the place of a candidate. -/
structure KeepsContent (f : Candidate → Candidate) : Prop where
  mutation : ∀ c, (f c).mutation = c.mutation
  impact : ∀ c, (f c).impact = c.impact

theorem keepsContent_atOrigin (origins : List Nat) : KeepsContent (Candidate.atOrigin origins) :=
  ⟨fun _ => rfl, fun _ => rfl⟩

namespace KeepsContent

variable {f : Candidate → Candidate} (hf : KeepsContent f) (cs : List Candidate)

include hf

theorem map_filter (test : Mutation → Bool) :
    (cs.filter fun c => test c.mutation).map f = (cs.map f).filter fun c => test c.mutation := by
  rw [List.filter_map]
  refine congrArg (List.map f) (List.filter_congr fun c _ => ?_)
  rw [Function.comp_apply, hf.mutation]

theorem map_byImpact : (byImpact cs).map f = byImpact (cs.map f) :=
  List.map_mergeSort fun a _ b _ => by rw [hf.impact, hf.impact]

theorem map_sample : (sample cs).map f = sample (cs.map f) := by
  rw [sample, sample, List.length_map]
  split
  · rfl
  · rw [List.map_take, hf.map_byImpact]

theorem map_strategyGroups :
    (strategyGroups cs).map (List.map f) = strategyGroups (cs.map f) :=
  map_groups _ _ (fun c => by rw [hf.mutation]) cs

theorem map_functionGroups :
    (functionGroups cs).map (List.map f) = functionGroups (cs.map f) :=
  map_groups _ _ (fun c => by rw [hf.mutation]) cs

theorem map_sampleClusters : (sampleClusters cs).map f = sampleClusters (cs.map f) := by
  rw [sampleClusters, sampleClusters, ← hf.map_functionGroups, List.map_flatMap, List.flatMap_map]
  refine List.flatMap_congr fun group _ => ?_
  rw [← hf.map_strategyGroups, List.map_flatMap, List.flatMap_map]
  exact List.flatMap_congr fun cluster _ => hf.map_sample cluster

theorem map_limitPerFunction (limit : Int) :
    (limitPerFunction limit cs).map f = limitPerFunction limit (cs.map f) := by
  rw [limitPerFunction, limitPerFunction, ← hf.map_functionGroups, List.map_flatMap,
    List.flatMap_map]
  refine List.flatMap_congr fun group _ => ?_
  rw [map_takeUpTo, hf.map_byImpact]

theorem map_limited (o : Options) : (limited o cs).map f = limited o (cs.map f) := by
  rw [limited, limited, hf.map_limitPerFunction, hf.map_sampleClusters, dropSimple, dropSimple,
    hf.map_filter _ fun m => decide (o.minComplexity ≤ complexity m), dropEquivalent,
    dropEquivalent, hf.map_filter _ fun m => !isEquivalent m]

end KeepsContent

end Maps

section Orders

/-- What it takes to put keys in one order only. -/
structure IsTotalOrder {κ : Type} (le : κ → κ → Bool) : Prop where
  trans : ∀ a b c, le a b = true → le b c = true → le a c = true
  total : ∀ a b, (le a b || le b a) = true
  antisymm : ∀ a b, le a b = true → le b a = true → a = b

theorem isTotalOrder_strategy : IsTotalOrder fun a b : String => decide (a ≤ b) where
  trans := fun _ _ _ hab hbc =>
    decide_eq_true (le_trans (of_decide_eq_true hab) (of_decide_eq_true hbc))
  total := fun a b => by simpa using le_total a b
  antisymm := fun _ _ hab hba => le_antisymm (of_decide_eq_true hab) (of_decide_eq_true hba)

theorem FunctionKey.le_iff {a b : FunctionKey} : FunctionKey.le a b = true ↔
    a.filePath < b.filePath ∨ a.filePath = b.filePath ∧ a.bucket ≤ b.bucket := by
  simp [FunctionKey.le]

theorem isTotalOrder_functionKey : IsTotalOrder FunctionKey.le where
  trans := by
    intro a b c hab hbc
    rw [FunctionKey.le_iff] at hab hbc ⊢
    rcases hab with hab | ⟨hab, hle⟩ <;> rcases hbc with hbc | ⟨hbc, hle'⟩
    · exact Or.inl (lt_trans hab hbc)
    · exact Or.inl (hbc ▸ hab)
    · exact Or.inl (hab ▸ hbc)
    · exact Or.inr ⟨hab.trans hbc, le_trans hle hle'⟩
  total := by
    intro a b
    rw [Bool.or_eq_true, FunctionKey.le_iff, FunctionKey.le_iff]
    rcases lt_trichotomy a.filePath b.filePath with hlt | heq | hgt
    · exact Or.inl (Or.inl hlt)
    · exact (le_total a.bucket b.bucket).imp (fun hle => Or.inr ⟨heq, hle⟩)
        fun hle => Or.inr ⟨heq.symm, hle⟩
    · exact Or.inr (Or.inl hgt)
  antisymm := by
    intro a b hab hba
    rw [FunctionKey.le_iff] at hab hba
    obtain ⟨path, bucket⟩ := a
    obtain ⟨path', bucket'⟩ := b
    rcases hab with hab | ⟨rfl, hle⟩
    · rcases hba with hba | ⟨rfl, -⟩
      · exact absurd hab (lt_asymm hba)
      · exact absurd hab (lt_irrefl _)
    · rcases hba with hba | ⟨-, hle'⟩
      · exact absurd hba (lt_irrefl _)
      · rw [FunctionKey.mk.injEq]
        exact ⟨rfl, le_antisymm hle hle'⟩

end Orders

section Clusters

variable {α β κ : Type} [DecidableEq κ] {key : α → κ} {le : κ → κ → Bool} {items items' : List α}

/-- Groups of the same items that are alike one by one are alike in their order. -/
theorem flatMap_groups_congr (hle : IsTotalOrder le) {use : List α → List β}
    (hmem : ∀ item, item ∈ items ↔ item ∈ items')
    (hsame : ∀ k, use (items.filter fun item => key item = k) =
      use (items'.filter fun item => key item = k)) :
    (groups key le items).flatMap use = (groups key le items').flatMap use := by
  have hkeys : (items.map key).eraseDups.Perm (items'.map key).eraseDups := by
    rw [List.perm_ext_iff_of_nodup (nodup_eraseDups _) (nodup_eraseDups _)]
    intro k
    simp only [List.mem_eraseDups, List.mem_map, hmem]
  have hsorted : (items.map key).eraseDups.mergeSort le =
      (items'.map key).eraseDups.mergeSort le :=
    List.Perm.eq_of_pairwise (fun a b _ _ => hle.antisymm a b)
      (List.pairwise_mergeSort hle.trans hle.total _)
      (List.pairwise_mergeSort hle.trans hle.total _)
      ((List.mergeSort_perm _ le).trans (hkeys.trans (List.mergeSort_perm _ le).symm))
  rw [groups, groups, hsorted, List.flatMap_map, List.flatMap_map]
  exact List.flatMap_congr fun k _ => hsame k

/-- Whether two lists have the same clusters, each in the same order. -/
def SameClusters (cs cs' : List Candidate) : Prop :=
  ∀ k, cs.filter (fun c => clusterKey c.mutation = k) =
    cs'.filter fun c => clusterKey c.mutation = k

namespace SameClusters

variable {cs cs' : List Candidate} (hsame : SameClusters cs cs')

include hsame

theorem mem_iff (c : Candidate) : c ∈ cs ↔ c ∈ cs' := by
  have hcluster : ∀ list : List Candidate,
      c ∈ list ↔
        c ∈ list.filter fun other => clusterKey other.mutation = clusterKey c.mutation := by
    intro list
    simp
  rw [hcluster cs, hcluster cs', hsame]

theorem filter (test : Candidate → Bool) : SameClusters (cs.filter test) (cs'.filter test) := by
  intro k
  rw [List.filter_comm, hsame k, List.filter_comm]

/-- Clusters that are in the same order have the same samples. -/
theorem sampleClusters_eq : sampleClusters cs = sampleClusters cs' := by
  refine flatMap_groups_congr isTotalOrder_functionKey hsame.mem_iff fun function => ?_
  have hgroup := hsame.filter fun c => functionKey c.mutation = function
  refine flatMap_groups_congr isTotalOrder_strategy hgroup.mem_iff fun strategy => ?_
  have hcluster : ∀ list : List Candidate,
      (list.filter fun c => functionKey c.mutation = function).filter
          (fun c => c.mutation.strategy = strategy) =
        list.filter fun c => clusterKey c.mutation = ⟨function, strategy⟩ := by
    intro list
    rw [List.filter_filter]
    refine List.filter_congr fun c _ => ?_
    rw [clusterKey, ← Bool.decide_and, decide_eq_decide, ClusterKey.mk.injEq, and_comm]
  rw [hcluster, hcluster, hsame]

theorem limited_eq (o : Options) : limited o cs = limited o cs' := by
  have hdropped := (hsame.filter fun c => !isEquivalent c.mutation).filter fun c =>
    decide (o.minComplexity ≤ complexity c.mutation)
  rw [limited, limited, dropEquivalent, dropSimple, hdropped.sampleClusters_eq]
  rfl

end SameClusters

end Clusters

section Places

variable {before after : List Mutation} {origins : List Nat}

/-- The candidate of the mutation at a place, if there is one. -/
def candidateAt? (mutations : List Mutation) (place : Nat) : Option Candidate :=
  (mutations[place]?).map fun m => ⟨place, m, impact m⟩

theorem getElem?_score (mutations : List Mutation) (place : Nat) :
    (score mutations)[place]? = candidateAt? mutations place := by
  simp [score, candidateAt?, List.getElem?_map, List.getElem?_zipIdx, Option.map_map,
    Function.comp_def]

theorem eq_filterMap_of_map_some {α ι : Type} {items : List α} {places : List ι}
    {at? : ι → Option α} (hitems : items.map some = places.map at?) :
    items = places.filterMap at? := by
  have hall := congrArg (List.filterMap id) hitems
  rwa [List.filterMap_map, List.filterMap_map, Function.id_comp, Function.id_comp,
    List.filterMap_some] at hall

theorem score_eq_filterMap (mutations : List Mutation) :
    score mutations = (List.range mutations.length).filterMap (candidateAt? mutations) := by
  refine eq_filterMap_of_map_some (List.ext_getElem? fun place => ?_)
  rw [List.getElem?_map, getElem?_score, List.getElem?_map, candidateAt?]
  by_cases hplace : place < mutations.length
  · simp [hplace, candidateAt?]
  · simp [hplace]

/-- Candidates of one cluster stand in the order of their places, if the places of the cluster
do. -/
theorem pairwise_place_filter {places : List Nat} (k : ClusterKey)
    (hplaces : places.Pairwise fun i j =>
      (before[i]?).map clusterKey = (before[j]?).map clusterKey → i < j) :
    ((places.filterMap (candidateAt? before)).filter fun c => clusterKey c.mutation = k).Pairwise
      fun c c' => c.place < c'.place := by
  rw [List.pairwise_filter, List.pairwise_filterMap]
  refine hplaces.imp fun {i j} hlater c hc c' hc' hk hk' => ?_
  obtain ⟨m, hm, rfl⟩ := Option.map_eq_some_iff.mp hc
  obtain ⟨m', hm', rfl⟩ := Option.map_eq_some_iff.mp hc'
  refine hlater ?_
  rw [hm, hm', Option.map_some, Option.map_some, of_decide_eq_true hk, of_decide_eq_true hk']

namespace KeepsClusters

variable (hkeeps : KeepsClusters before after origins)

include hkeeps

theorem map_score_eq_filterMap :
    (score after).map (Candidate.atOrigin origins) =
      origins.filterMap (candidateAt? before) := by
  refine eq_filterMap_of_map_some (List.ext_getElem? fun place => ?_)
  have hentry := congrArg (·[place]?) hkeeps.entries
  simp only [List.getElem?_map] at hentry
  rw [List.getElem?_map, List.getElem?_map, getElem?_score, candidateAt?, List.getElem?_map]
  cases horigin : origins[place]? with
  | none =>
      rw [horigin, Option.map_none, Option.map_eq_none_iff] at hentry
      rw [hentry]
      rfl
  | some origin =>
      rw [horigin, Option.map_some, Option.map_eq_some_iff] at hentry
      obtain ⟨m, hm, hbefore⟩ := hentry
      simp [hm, ← hbefore, candidateAt?, Candidate.atOrigin, horigin]

theorem sameClusters :
    SameClusters ((score after).map (Candidate.atOrigin origins)) (score before) := by
  intro k
  rw [hkeeps.map_score_eq_filterMap, score_eq_filterMap]
  have hrange : (List.range before.length).Pairwise fun i j =>
      (before[i]?).map clusterKey = (before[j]?).map clusterKey → i < j := by
    refine List.pairwise_lt_range.imp ?_
    intro _ _ hlt _
    exact hlt
  exact List.Perm.eq_of_pairwise (fun _ _ _ _ hlt hgt => absurd hlt (Nat.lt_asymm hgt))
    (pairwise_place_filter k hkeeps.inOrder) (pairwise_place_filter k hrange)
    ((hkeeps.places.filterMap _).filter _)

theorem limited_eq (o : Options) :
    (limited o (score after)).map (Candidate.atOrigin origins) = limited o (score before) := by
  rw [(keepsContent_atOrigin origins).map_limited, hkeeps.sameClusters.limited_eq]

end KeepsClusters

end Places

/-- Enabled options keep the same mutations, in the same order and with the same scores, from any
two lists that differ in how their clusters are mixed.  Where boundary mutations come first, this
is true of all others. -/
theorem kept_mutations_independent_of_mixing (o : Options) (henabled : o.enabled = true)
    (before after : List Mutation) (origins : List Nat)
    (hkeeps : KeepsClusters before after origins) :
    (o.keepsBoundary = false →
        (optimize o after).map (Candidate.atOrigin origins) = optimize o before) ∧
      (o.keepsBoundary = true → ∃ others,
        (∀ c ∈ others, isBoundary c.mutation = false) ∧
          optimize o before = (score before).filter (fun c => isBoundary c.mutation) ++ others ∧
          (optimize o after).map (Candidate.atOrigin origins) =
            ((score after).filter fun c => isBoundary c.mutation).map
              (Candidate.atOrigin origins) ++ others) := by
  have hlimited := hkeeps.limited_eq o
  rw [optimize, optimize, if_pos henabled, if_pos henabled]
  constructor
  · intro hdrops
    rw [select, select, hdrops]
    exact hlimited
  · intro hboundary
    refine ⟨(limited o (score before)).filter fun c => !isBoundary c.mutation, fun c hc => ?_,
      select_of_keepsBoundary hboundary, ?_⟩
    · simpa using (List.mem_filter.mp hc).2
    · rw [select_of_keepsBoundary hboundary, List.map_append,
        (keepsContent_atOrigin origins).map_filter _ fun m => !isBoundary m, hlimited]

/-- A mutation of a strategy on a line, which removes two statements. -/
def removalOn (strategy : Strategy) (line : Int) : Mutation :=
  ⟨strategy.name, .list [.absent, .absent], .list [], "", "m.py", line⟩

/-- A cluster of four mutations with one score, one of another strategy between them, and one of
another function. -/
def clusteredRemovals : List Mutation :=
  [removalOn .arithmetic 1, removalOn .arithmetic 2, removalOn .boolean 3, removalOn .arithmetic 4,
    removalOn .arithmetic 5, removalOn .arithmetic 60]

/-- The same with the last function first. -/
def remixedRemovals : List Mutation :=
  [removalOn .arithmetic 60, removalOn .arithmetic 1, removalOn .arithmetic 2,
    removalOn .arithmetic 4, removalOn .arithmetic 5, removalOn .boolean 3]

theorem keepsClusters_remixedRemovals :
    KeepsClusters clusteredRemovals remixedRemovals [5, 0, 1, 3, 4, 2] where
  places := by decide
  entries := by decide +kernel
  inOrder := by decide +kernel

/-- Of the cluster the first two are kept, and of their function the best two. -/
theorem remixed_removals_kept_alike :
    let o : Options := ⟨true, 1, 2, false⟩
    KeepsClusters clusteredRemovals remixedRemovals [5, 0, 1, 3, 4, 2] ∧
      (optimize o clusteredRemovals).map (fun c => c.place) = [2, 0, 5] ∧
      (optimize o remixedRemovals).map (Candidate.atOrigin [5, 0, 1, 3, 4, 2]) =
        optimize o clusteredRemovals := by
  intro o
  refine ⟨keepsClusters_remixedRemovals, by cbv, ?_⟩
  exact (kept_mutations_independent_of_mixing o rfl _ _ _ keepsClusters_remixedRemovals).1 rfl

end MutationTesting.Optimizer
