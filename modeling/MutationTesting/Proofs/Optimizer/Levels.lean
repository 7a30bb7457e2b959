import MutationTesting.Mutation.Walk
import MutationTesting.Proofs.Optimizer.Ranking
import MutationTesting.Source.Parse

/-!
# Stricter levels

A stricter level drops more of the simple code and has lower limits.  It still may keep more: of
four to six mutations in a cluster two are sampled, but all of three, and boundary mutations that
lose their place among the sampled ones are put back, while their places go to others.  There is no
other way in which it may keep more.
-/

namespace MutationTesting.Optimizer

/-- The mutations of a cluster that sampling gets to see. -/
def passing (o : Options) (mutations : List Mutation) (k : ClusterKey) : List Mutation :=
  ((mutations.filter fun m => !isEquivalent m).filter fun m =>
    decide (o.minComplexity ≤ complexity m)).filter fun m => clusterKey m = k

/-- Whether exactly three mutations of a cluster pass the stricter filter, and four to six the other
one. -/
def IsNarrowed (strict lax : Options) (mutations : List Mutation) (k : ClusterKey) : Prop :=
  (passing strict mutations k).length = 3 ∧ 4 ≤ (passing lax mutations k).length ∧
    (passing lax mutations k).length ≤ 6

instance (strict lax : Options) (mutations : List Mutation) (k : ClusterKey) :
    Decidable (IsNarrowed strict lax mutations k) := inferInstanceAs (Decidable (_ ∧ _))

/-- The clusters of a list, each once. -/
def clusters (mutations : List Mutation) : List ClusterKey := (mutations.map clusterKey).eraseDups

/-- How many clusters a stricter filter narrows. -/
def narrowedClusters (strict lax : Options) (mutations : List Mutation) : Nat :=
  (clusters mutations).countP fun k => decide (IsNarrowed strict lax mutations k)

/-- How many boundary mutations are sampled and pass the limit, so they need not be put back. -/
def limitedBoundaries (o : Options) (mutations : List Mutation) : Nat :=
  ((limited o (score mutations)).filter fun c => isBoundary c.mutation).length

/-- Whether enabled options drop more simple code and have a lower limit than others. -/
structure IsStricter (strict lax : Options) : Prop where
  enabled : strict.enabled = true ∧ lax.enabled = true
  keepsBoundary : strict.keepsBoundary = true ∧ lax.keepsBoundary = true
  minComplexity : lax.minComplexity ≤ strict.minComplexity
  maxPerFunction : strict.maxPerFunction ≤ lax.maxPerFunction
  nonneg : 0 ≤ strict.maxPerFunction

/-- Sampling keeps more of fewer candidates only where it keeps all three instead of two. -/
theorem sampleSize_le {n n' : Nat} (hle : n' ≤ n) :
    sampleSize n' ≤ sampleSize n + if n' = 3 ∧ 4 ≤ n ∧ n ≤ 6 then 1 else 0 := by
  rw [sampleSize, sampleSize]
  split <;> split <;> split <;> omega

section Lengths

variable (o : Options) (mutations : List Mutation)

theorem length_optimize_add (henabled : o.enabled = true) (hkeeps : o.keepsBoundary = true) :
    (optimize o mutations).length + limitedBoundaries o mutations =
      (mutations.filter isBoundary).length + (limited o (score mutations)).length := by
  have hboundaries : (((score mutations).filter fun c => isBoundary c.mutation).map
      Candidate.mutation).length = (mutations.filter isBoundary).length :=
    congrArg List.length (filter_score isBoundary)
  rw [List.length_map] at hboundaries
  have hsplit := List.length_eq_length_filter_add (l := limited o (score mutations))
    fun c => isBoundary c.mutation
  rw [optimize, if_pos henabled, select_of_keepsBoundary hkeeps, List.length_append, hboundaries,
    limitedBoundaries]
  omega

/-- The candidates that are sampled. -/
def sampled : List Candidate :=
  sampleClusters (dropSimple o.minComplexity (dropEquivalent (score mutations)))

theorem sampled_subperm : (sampled o mutations).Subperm (score mutations) :=
  (sampleClusters_subperm _).trans (List.filter_sublist.trans List.filter_sublist).subperm

theorem mutation_mem_of_mem_sampled {c : Candidate} (hc : c ∈ sampled o mutations) :
    c.mutation ∈ mutations :=
  List.mem_of_getElem? (standsFor_of_mem_score ((sampled_subperm o mutations).subset hc)).entry

theorem length_ofCluster_sampled (k : ClusterKey) :
    (ofCluster k (sampled o mutations)).length = sampleSize (passing o mutations k).length := by
  have hpassing : (ofCluster k (dropSimple o.minComplexity (dropEquivalent (score mutations)))).map
      Candidate.mutation = passing o mutations k := by
    rw [passing]
    nth_rewrite 2 [← map_mutation_score mutations]
    rw [List.filter_map, List.filter_map, List.filter_map]
    rfl
  rw [sampled, ofCluster_sampleClusters, length_sample, ← hpassing, List.length_map]

/-- The clusters of a function. -/
def clustersOf (k : FunctionKey) : List ClusterKey :=
  (clusters mutations).filter fun cluster => cluster.function = k

theorem length_ofFunction_sampled (k : FunctionKey) :
    (ofFunction k (sampled o mutations)).length =
      ((clustersOf mutations k).map fun cluster =>
        sampleSize (passing o mutations cluster).length).sum := by
  have hnodup : (clustersOf mutations k).Nodup := (nodup_eraseDups _).filter _
  have hmem : ∀ c ∈ ofFunction k (sampled o mutations), clusterKey c.mutation ∈
      clustersOf mutations k := by
    intro c hc
    obtain ⟨hsampled, hfunction⟩ := List.mem_filter.mp hc
    refine List.mem_filter.mpr ⟨List.mem_eraseDups.mpr (List.mem_map_of_mem ?_), hfunction⟩
    exact mutation_mem_of_mem_sampled o mutations hsampled
  rw [length_eq_sum_groups (fun c : Candidate => clusterKey c.mutation) hnodup hmem]
  refine congrArg List.sum (List.map_congr_left fun cluster hcluster => ?_)
  have hfunction := of_decide_eq_true (List.mem_filter.mp hcluster).2
  rw [← length_ofCluster_sampled, ofFunction, List.filter_filter, ofCluster]
  refine congrArg List.length (List.filter_congr fun c _ => ?_)
  rw [Bool.and_eq_left_iff_imp]
  intro hcluster
  rw [← hfunction, ← of_decide_eq_true hcluster]
  exact decide_eq_true rfl

theorem length_limited (n : Nat) (hn : o.maxPerFunction = n) :
    (limited o (score mutations)).length =
      ((mutations.map functionKey).eraseDups.map fun k =>
        min n ((clustersOf mutations k).map fun cluster =>
          sampleSize (passing o mutations cluster).length).sum).sum := by
  have hlimited : limited o (score mutations) = limitPerFunction n (sampled o mutations) := by
    rw [limited, hn, sampled]
  have hmem : ∀ c ∈ limitPerFunction n (sampled o mutations), functionKey c.mutation ∈
      (mutations.map functionKey).eraseDups := by
    intro c hc
    refine List.mem_eraseDups.mpr (List.mem_map_of_mem ?_)
    exact mutation_mem_of_mem_sampled o mutations ((limitPerFunction_subperm _ _).subset hc)
  rw [hlimited, length_eq_sum_groups (fun c : Candidate => functionKey c.mutation)
    (nodup_eraseDups _) hmem]
  refine congrArg List.sum (List.map_congr_left fun k _ => ?_)
  change (ofFunction k _).length = _
  rw [ofFunction_limitPerFunction, takeUpTo_natCast, List.length_take,
    (byImpact_perm _).length_eq, length_ofFunction_sampled]

end Lengths

/-- Narrowed clusters are counted function by function. -/
theorem narrowedClusters_eq_sum (strict lax : Options) (mutations : List Mutation) :
    narrowedClusters strict lax mutations =
      ((mutations.map functionKey).eraseDups.map fun k =>
        (clustersOf mutations k).countP fun cluster =>
          decide (IsNarrowed strict lax mutations cluster)).sum := by
  have hmem : ∀ cluster ∈ (clusters mutations).filter fun cluster =>
      decide (IsNarrowed strict lax mutations cluster),
      cluster.function ∈ (mutations.map functionKey).eraseDups := by
    intro cluster hcluster
    have hcluster := List.mem_eraseDups.mp (List.mem_filter.mp hcluster).1
    obtain ⟨m, hm, rfl⟩ := List.mem_map.mp hcluster
    exact List.mem_eraseDups.mpr (List.mem_map_of_mem hm)
  rw [narrowedClusters, List.countP_eq_length_filter,
    length_eq_sum_groups ClusterKey.function (nodup_eraseDups _) hmem]
  refine congrArg List.sum (List.map_congr_left fun k _ => ?_)
  rw [List.countP_eq_length_filter, clustersOf, List.filter_comm]

section Levels

variable {strict lax : Options} (hstricter : IsStricter strict lax) (mutations : List Mutation)

include hstricter

theorem IsStricter.length_passing_le (k : ClusterKey) :
    (passing strict mutations k).length ≤ (passing lax mutations k).length := by
  refine (List.Sublist.filter _ (List.monotone_filter_right _ fun m hm => ?_)).length_le
  exact decide_eq_true (hstricter.minComplexity.trans (of_decide_eq_true hm))

/-- The samples of a function's clusters are no more than before, but for one more in each cluster
that is narrowed. -/
theorem IsStricter.sum_sampleSize_le (keys : List ClusterKey) :
    (keys.map fun k => sampleSize (passing strict mutations k).length).sum ≤
      (keys.map fun k => sampleSize (passing lax mutations k).length).sum +
        keys.countP fun k => decide (IsNarrowed strict lax mutations k) := by
  induction keys with
  | nil => simp
  | cons first rest ih =>
      have hfirst : sampleSize (passing strict mutations first).length ≤
          sampleSize (passing lax mutations first).length +
            if IsNarrowed strict lax mutations first then 1 else 0 :=
        sampleSize_le (hstricter.length_passing_le mutations first)
      rw [List.map_cons, List.sum_cons, List.map_cons, List.sum_cons, List.countP_cons]
      simp only [decide_eq_true_eq]
      omega

theorem IsStricter.length_limited_le :
    (limited strict (score mutations)).length ≤
      (limited lax (score mutations)).length + narrowedClusters strict lax mutations := by
  obtain ⟨n, hn⟩ := Int.eq_ofNat_of_zero_le hstricter.nonneg
  obtain ⟨n', hn'⟩ := Int.eq_ofNat_of_zero_le (hstricter.nonneg.trans hstricter.maxPerFunction)
  have hlimit : n ≤ n' := by
    have hle := hstricter.maxPerFunction
    omega
  rw [length_limited strict mutations n hn, length_limited lax mutations n' hn',
    narrowedClusters_eq_sum, ← List.sum_map_add]
  refine List.sum_le_sum fun k _ => ?_
  have hsamples := hstricter.sum_sampleSize_le mutations (clustersOf mutations k)
  omega

/-- Stricter options keep no more, besides what they keep in narrowed clusters and instead of
boundary mutations. -/
theorem IsStricter.length_optimize_le :
    (optimize strict mutations).length + limitedBoundaries strict mutations ≤
      (optimize lax mutations).length + limitedBoundaries lax mutations +
        narrowedClusters strict lax mutations := by
  have hstrict := length_optimize_add strict mutations hstricter.enabled.1 hstricter.keepsBoundary.1
  have hlax := length_optimize_add lax mutations hstricter.enabled.2 hstricter.keepsBoundary.2
  have hlimited := hstricter.length_limited_le mutations
  omega

end Levels

/-- A stricter level keeps as many mutations as the level before it at most, besides one more of
each narrowed cluster, and those in the places of boundary mutations that are no longer sampled. -/
theorem stricter_level_keeps_no_more_besides (mutations : List Mutation) :
    (optimize Level.aggressive.options mutations).length +
          limitedBoundaries Level.aggressive.options mutations ≤
        (optimize Level.balanced.options mutations).length +
            limitedBoundaries Level.balanced.options mutations +
          narrowedClusters Level.aggressive.options Level.balanced.options mutations ∧
      (optimize Level.balanced.options mutations).length +
          limitedBoundaries Level.balanced.options mutations ≤
        (optimize Level.conservative.options mutations).length +
            limitedBoundaries Level.conservative.options mutations +
          narrowedClusters Level.balanced.options Level.conservative.options mutations := by
  have haggressive : IsStricter Level.aggressive.options Level.balanced.options :=
    ⟨⟨rfl, rfl⟩, ⟨rfl, rfl⟩, by decide, by decide, by decide⟩
  have hbalanced : IsStricter Level.balanced.options Level.conservative.options :=
    ⟨⟨rfl, rfl⟩, ⟨rfl, rfl⟩, by decide, by decide, by decide⟩
  exact ⟨haggressive.length_optimize_le mutations, hbalanced.length_optimize_le mutations⟩

/-- A name on a line. -/
def nameOn (line : Nat) (name : String) : Tree :=
  .node .name line [.text name, .node (.usage .load) 0 []]

/-- A statement on a line that is a conjunction of two names. -/
def conjunctionOn (line : Nat) (left right : String) : Tree :=
  .node .expressionStatement line [.node .boolOp line
    [.node (.connective .and) 0 [], .list [nameOn line left, nameOn line right]]]

/-- The program `a and b; c and d; e and f; True` on four lines. -/
def conjunctionsAndTruth : Tree :=
  .node .module 0 [.list [conjunctionOn 1 "a" "b", conjunctionOn 2 "c" "d", conjunctionOn 3 "e" "f",
    .node .expressionStatement 4 [Catalog.constantAt 4 (.bool true)]]]

/-- Of the four mutations of one cluster, the conservative level samples two.  The balanced level
drops the last one, so three are left and all of them stay. -/
theorem balanced_level_keeps_more_of_narrowed_cluster :
    ¬ ∀ (source : String) (strategies : List Strategy) (t : Tree) (found : List Mutation),
      Source.parse? source = some t → mutationsOf strategies "m.py" t = .ok found →
        (optimize Level.aggressive.options found).length ≤
            (optimize Level.balanced.options found).length ∧
          (optimize Level.balanced.options found).length ≤
            (optimize Level.conservative.options found).length := by
  intro hordered
  have hparse : Source.parse? "a and b\nc and d\ne and f\nTrue\n" = some conjunctionsAndTruth := by
    decide +kernel
  have hfound : ∃ found, mutationsOf [.boolean] "m.py" conjunctionsAndTruth = .ok found ∧
      (optimize Level.balanced.options found).length = 3 ∧
      (optimize Level.conservative.options found).length = 2 :=
    ⟨_, rfl, by cbv, by cbv⟩
  obtain ⟨found, hfound, hbalanced, hconservative⟩ := hfound
  obtain ⟨-, hle⟩ := hordered _ _ _ found hparse hfound
  rw [hbalanced, hconservative] at hle
  exact absurd hle (by decide)

/-- A statement on a line that compares two operands. -/
def comparisonOn (line : Nat) (op : Comparator) (left right : Tree) : Tree :=
  .node .expressionStatement line [.node .compare line
    [left, .list [Catalog.comparatorNode op], .list [right]]]

/-- The program `a >= b; c >= d; (x and y) > z` on three lines. -/
def comparisonsAndConjunction : Tree :=
  .node .module 0 [.list [comparisonOn 1 .gtE (nameOn 1 "a") (nameOn 1 "b"),
    comparisonOn 2 .gtE (nameOn 2 "c") (nameOn 2 "d"),
    comparisonOn 3 .gt (.node .boolOp 3 [.node (.connective .and) 0 [],
      .list [nameOn 3 "x", nameOn 3 "y"]]) (nameOn 3 "z")]]

/-- No cluster is narrowed here.  Of six mutations the conservative level samples two, which are
boundary mutations; the balanced level has two left, and one of these is no boundary mutation. -/
theorem balanced_level_keeps_more_instead_of_boundaries :
    ∃ found, Source.parse? "a >= b\nc >= d\n(x and y) > z\n" = some comparisonsAndConjunction ∧
      mutationsOf [.comparison] "m.py" comparisonsAndConjunction = .ok found ∧
      narrowedClusters Level.balanced.options Level.conservative.options found = 0 ∧
      limitedBoundaries Level.balanced.options found = 1 ∧
      limitedBoundaries Level.conservative.options found = 2 ∧
      (optimize Level.balanced.options found).length = 6 ∧
      (optimize Level.conservative.options found).length = 5 :=
  ⟨_, by decide +kernel, rfl, by cbv, by cbv, by cbv, by cbv, by cbv⟩

end MutationTesting.Optimizer
