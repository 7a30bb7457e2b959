import MutationTesting.Proofs.Optimizer.Levels
import MutationTesting.Proofs.Settings.Acceptance

/-!
# The limit of a function

An optimized run keeps so many mutations of every function as its configuration says, besides boundary
mutations.  The number is not checked when the configuration is made.  A negative one says how many
sampled mutations a function loses, so that a large function keeps some.
-/

namespace MutationTesting

namespace Optimizer

variable {o : Options} {mutations : List Mutation} {k : FunctionKey}

/-- The mutations of a function that are kept, but for boundary mutations. -/
def othersKept (o : Options) (mutations : List Mutation) (k : FunctionKey) : List Candidate :=
  (ofFunction k (optimize o mutations)).filter fun c => !isBoundary c.mutation

theorem takeUpTo_eq {α : Type} (limit : Int) (items : List α) :
    takeUpTo limit items =
      items.take (if 0 ≤ limit then limit.toNat else items.length - limit.natAbs) := by
  rw [takeUpTo]
  split
  next hnegative => rw [if_neg (Int.not_le.mpr hnegative)]
  next hnonneg => rw [if_pos (Int.not_lt.mp hnonneg)]

/-- Putting boundary mutations back changes nothing about the others. -/
theorem filter_not_isBoundary_optimize (henabled : o.enabled = true) :
    (optimize o mutations).filter (fun c => !isBoundary c.mutation) =
      (limited o (score mutations)).filter fun c => !isBoundary c.mutation := by
  rw [optimize, if_pos henabled]
  cases hkeeps : o.keepsBoundary with
  | false =>
      rw [select, hkeeps]
      rfl
  | true =>
      rw [select_of_keepsBoundary hkeeps, List.filter_append, List.filter_filter, List.filter_filter]
      simp

theorem othersKept_eq (henabled : o.enabled = true) :
    othersKept o mutations k =
      (takeUpTo o.maxPerFunction (byImpact (ofFunction k (sampled o mutations)))).filter
        fun c => !isBoundary c.mutation := by
  have hlimited : ofFunction k (limited o (score mutations)) =
      takeUpTo o.maxPerFunction (byImpact (ofFunction k (sampled o mutations))) :=
    ofFunction_limitPerFunction k o.maxPerFunction _
  rw [othersKept, ofFunction, List.filter_comm, filter_not_isBoundary_optimize henabled,
    List.filter_comm, ← hlimited, ofFunction]

/-- A tree that chooses between branches so many times. -/
def branching (points : Nat) : Tree := .list (List.replicate points (.node .ifStatement 0 []))

theorem decisionPoints_branching (points : Nat) : decisionPoints (branching points) = points := by
  rw [branching, decisionPoints]
  induction points with
  | zero => rfl
  | succ points ih =>
      rw [List.replicate_succ, decisionPointsOfAll, ih, decisionPoints, ownDecisions,
        decisionPointsOfAll]
      omega

/-- A mutation that puts such a tree in place of nothing. -/
def branchingMutation (points : Nat) : Mutation :=
  ⟨Strategy.conditional.name, .absent, branching points, "", "", 0⟩

/-- So many mutations of one place that are all alike. -/
def crowd (size points : Nat) : List Mutation := List.replicate size (branchingMutation points)

section Crowd

variable {size points : Nat}

theorem mutation_of_mem_score_crowd {c : Candidate} (hc : c ∈ score (crowd size points)) :
    c.mutation = branchingMutation points :=
  List.eq_of_mem_replicate (List.mem_of_getElem? (standsFor_of_mem_score hc).entry)

theorem dropEquivalent_score_crowd :
    dropEquivalent (score (crowd size points)) = score (crowd size points) := by
  refine List.filter_eq_self.mpr fun c hc => ?_
  rw [mutation_of_mem_score_crowd hc]
  rfl

theorem dropSimple_score_crowd {m : Int} (hm : m ≤ points) :
    dropSimple m (score (crowd size points)) = score (crowd size points) := by
  refine List.filter_eq_self.mpr fun c hc => decide_eq_true ?_
  rw [mutation_of_mem_score_crowd hc, complexity, branchingMutation, decisionPoints_branching]
  omega

/-- Such mutations are sampled like those of any cluster, and all of them are in one function. -/
theorem le_length_ofFunction_sampled_crowd (hpoints : o.minComplexity ≤ points) :
    sampleSize size ≤ (ofFunction (functionKey (branchingMutation points))
      (sampled o (crowd size points))).length := by
  have hcluster : ofCluster (clusterKey (branchingMutation points)) (score (crowd size points)) =
      score (crowd size points) := by
    refine List.filter_eq_self.mpr fun c hc => decide_eq_true ?_
    rw [mutation_of_mem_score_crowd hc]
  have hsample : (ofCluster (clusterKey (branchingMutation points))
      (sampled o (crowd size points))).length = sampleSize size := by
    rw [sampled, dropEquivalent_score_crowd, dropSimple_score_crowd hpoints,
      ofCluster_sampleClusters, hcluster, length_sample, length_score, crowd, List.length_replicate]
  rw [← hsample, ofCluster_eq]
  exact List.length_filter_le _ _

theorem isBoundary_of_mem_sampled_crowd {c : Candidate} (hc : c ∈ sampled o (crowd size points)) :
    isBoundary c.mutation = false := by
  rw [mutation_of_mem_score_crowd ((sampled_subperm o _).subset hc)]
  rfl

/-- A limit below zero leaves some mutations of a large function. -/
theorem othersKept_crowd_ne_nil (henabled : o.enabled = true) (hpoints : o.minComplexity ≤ points)
    (hnegative : o.maxPerFunction < 0) (hlarge : o.maxPerFunction.natAbs < sampleSize size) :
    othersKept o (crowd size points) (functionKey (branchingMutation points)) ≠ [] := by
  have hsize : sampleSize size ≤ (ofFunction (functionKey (branchingMutation points))
      (sampled o (crowd size points))).length := le_length_ofFunction_sampled_crowd hpoints
  rw [othersKept_eq henabled, takeUpTo, if_pos hnegative, List.filter_eq_self.mpr]
  · rw [← List.length_pos_iff, List.length_take, (byImpact_perm _).length_eq]
    omega
  · intro c hc
    have hsampled := List.mem_of_mem_filter ((byImpact_perm _).subset (List.mem_of_mem_take hc))
    rw [isBoundary_of_mem_sampled_crowd hsampled]
    rfl

end Crowd

end Optimizer

namespace Settings

open MutationTesting.Optimizer

section Options

variable {s : OptimizerSettings} {scored : List Candidate} {o : Options}

theorem ite_bind_eq {α β : Type} (condition : Prop) [Decidable condition]
    (first second : Except UseError α) (next : α → Except UseError β) :
    (if condition then first >>= next else second >>= next) =
      (if condition then first else second) >>= next := by
  split <;> rfl

/-- The options of enabled settings.  A setting that no candidate is held against is not read. -/
theorem options_eq_bind (henabled : s.enabled = true) :
    s.options scored =
      (if (dropEquivalent scored).isEmpty then pure 0
        else threshold (dropEquivalent scored) s.minComplexity) >>= fun minComplexity =>
      (if (dropSimple minComplexity (dropEquivalent scored)).isEmpty then pure 0
        else count s.maxPerFunction) >>= fun maxPerFunction =>
      pure ⟨true, minComplexity, maxPerFunction, s.keepsBoundary⟩ := by
  rw [OptimizerSettings.options, henabled]
  simp only [ite_bind_eq]
  rfl

theorem options_eq_ok_iff (henabled : s.enabled = true) :
    s.options scored = .ok o ↔ ∃ minComplexity maxPerFunction,
      (if (dropEquivalent scored).isEmpty then pure 0
        else threshold (dropEquivalent scored) s.minComplexity) = .ok minComplexity ∧
      (if (dropSimple minComplexity (dropEquivalent scored)).isEmpty then pure 0
        else count s.maxPerFunction) = .ok maxPerFunction ∧
      o = ⟨true, minComplexity, maxPerFunction, s.keepsBoundary⟩ := by
  rw [options_eq_bind henabled]
  constructor
  · intro hresult
    obtain ⟨minComplexity, hcomplexity, hresult⟩ := bind_eq_ok_iff.mp hresult
    obtain ⟨maxPerFunction, hlimit, hresult⟩ := bind_eq_ok_iff.mp hresult
    exact ⟨minComplexity, maxPerFunction, hcomplexity, hlimit, (Except.ok.inj hresult).symm⟩
  · rintro ⟨minComplexity, maxPerFunction, hcomplexity, hlimit, rfl⟩
    exact bind_eq_ok_iff.mpr ⟨minComplexity, hcomplexity,
      bind_eq_ok_iff.mpr ⟨maxPerFunction, hlimit, rfl⟩⟩

theorem exists_options_eq_ok (henabled : s.enabled = true) {n : Int}
    (hcount : count s.maxPerFunction = .ok n) {x : Amount} (hx : s.minComplexity = .amount x)
    (scored : List Candidate) : ∃ o, s.options scored = .ok o := by
  have hthreshold : ∃ m, (if (dropEquivalent scored).isEmpty then pure 0
      else threshold (dropEquivalent scored) s.minComplexity) = .ok m := by
    rw [hx, threshold]
    split
    · exact ⟨0, rfl⟩
    · split <;> exact ⟨_, rfl⟩
  obtain ⟨m, hm⟩ := hthreshold
  have hlimit : ∃ limit, (if (dropSimple m (dropEquivalent scored)).isEmpty then pure 0
      else count s.maxPerFunction) = .ok limit := by
    rw [hcount]
    split <;> exact ⟨_, rfl⟩
  obtain ⟨limit, hlimit⟩ := hlimit
  exact ⟨_, (options_eq_ok_iff henabled).mpr ⟨m, limit, hm, hlimit, rfl⟩⟩

end Options

section Thresholds

/-- Whether there is a least complexity that a setting admits. -/
def HasThreshold (v : Value) : Prop := ∃ x m, v = .amount x ∧ ceiling? x = some m

theorem le_foldl_max {numbers : List Nat} {bound n : Nat} (hn : n ≤ bound ∨ n ∈ numbers) :
    n ≤ numbers.foldl max bound := by
  induction numbers generalizing bound with
  | nil => simpa using hn
  | cons first rest ih =>
      refine ih ?_
      rcases hn with hbound | hmem
      · exact .inl (hbound.trans (Nat.le_max_left ..))
      · rcases List.mem_cons.mp hmem with rfl | hlater
        · exact .inl (Nat.le_max_right ..)
        · exact .inr hlater

/-- Without a least complexity that is admitted, no candidate passes. -/
theorem dropSimple_eq_nil_of_threshold {cs : List Candidate} {v : Value} {m : Int}
    (hthreshold : threshold cs v = .ok m) (hnone : ¬ HasThreshold v) : dropSimple m cs = [] := by
  unfold threshold at hthreshold
  split at hthreshold
  next x =>
      split at hthreshold
      next least hleast => exact absurd ⟨x, least, rfl, hleast⟩ hnone
      next =>
          cases hthreshold
          refine List.filter_eq_nil_iff.mpr fun c hc => ?_
          have hmem : complexity c.mutation ∈ cs.map fun c => complexity c.mutation :=
            List.mem_map_of_mem hc
          have hle : complexity c.mutation ≤ (cs.map fun c => complexity c.mutation).foldl max 0 :=
            le_foldl_max (.inr hmem)
          rw [decide_eq_true_eq]
          omega
  next => cases hthreshold

theorem sampled_eq_nil {mutations : List Mutation} {o : Options}
    (hnone : dropSimple o.minComplexity (dropEquivalent (score mutations)) = []) :
    sampled o mutations = [] := by
  rw [sampled, hnone]
  exact List.subperm_nil.mp (sampleClusters_subperm [])

variable {s : OptimizerSettings} {mutations : List Mutation} {o : Options} {n : Int}

theorem sampled_eq_nil_of_not_hasThreshold (henabled : s.enabled = true)
    (hoptions : s.options (score mutations) = .ok o) (hnone : ¬ HasThreshold s.minComplexity) :
    sampled o mutations = [] := by
  obtain ⟨m, limit, hm, -, rfl⟩ := (options_eq_ok_iff henabled).mp hoptions
  refine sampled_eq_nil ?_
  split at hm
  next hempty =>
      rw [List.isEmpty_iff.mp hempty]
      rfl
  next => exact dropSimple_eq_nil_of_threshold hm hnone

/-- The mutations of a function that are kept, but for boundary mutations, are so many of the best ones
as the limit says. -/
theorem othersKept_of_options (henabled : s.enabled = true)
    (hoptions : s.options (score mutations) = .ok o) (hcount : count s.maxPerFunction = .ok n)
    (k : FunctionKey) :
    othersKept o mutations k =
      (takeUpTo n (byImpact (ofFunction k (sampled o mutations)))).filter
        fun c => !isBoundary c.mutation := by
  obtain ⟨m, limit, -, hlimit, rfl⟩ := (options_eq_ok_iff henabled).mp hoptions
  rw [othersKept_eq rfl]
  split at hlimit
  next hempty =>
      have hnone : sampled ⟨true, m, limit, s.keepsBoundary⟩ mutations = [] :=
        sampled_eq_nil (List.isEmpty_iff.mp hempty)
      have hnothing : ∀ limit, takeUpTo limit ([] : List Candidate) = [] := fun limit =>
        List.sublist_nil.mp (takeUpTo_sublist limit [])
      rw [hnone, ofFunction, List.filter_nil, byImpact, List.mergeSort_nil, hnothing, hnothing]
  next => rw [Except.ok.inj (hlimit.symm.trans hcount)]

/-- A limit below zero is exceeded by a function with many mutations, if any complexity is admitted. -/
theorem exists_othersKept_of_neg (henabled : s.enabled = true)
    (hcount : count s.maxPerFunction = .ok n) (hthreshold : HasThreshold s.minComplexity)
    (hnegative : n < 0) :
    ∃ mutations o k, s.options (score mutations) = .ok o ∧ othersKept o mutations k ≠ [] := by
  obtain ⟨x, m, hx, hm⟩ := hthreshold
  have hpoints : m ≤ m.toNat := Int.self_le_toNat m
  have hsome : (score (crowd (3 * n.natAbs + 3) m.toNat)).isEmpty = false := by
    rw [List.isEmpty_eq_false_iff, ← List.length_pos_iff, length_score, crowd, List.length_replicate]
    omega
  have hoptions : s.options (score (crowd (3 * n.natAbs + 3) m.toNat)) =
      .ok ⟨true, m, n, s.keepsBoundary⟩ := by
    refine (options_eq_ok_iff henabled).mpr ⟨m, n, ?_, ?_, rfl⟩
    · rw [dropEquivalent_score_crowd, hsome, if_neg Bool.false_ne_true, hx, threshold, hm]
    · rw [dropEquivalent_score_crowd, dropSimple_score_crowd hpoints, hsome,
        if_neg Bool.false_ne_true, hcount]
  -- one more mutation is sampled than the limit takes away
  have hlarge : n.natAbs < sampleSize (3 * n.natAbs + 3) := by
    rw [sampleSize]
    split <;> omega
  exact ⟨_, _, _, hoptions, othersKept_crowd_ne_nil rfl hpoints hnegative hlarge⟩

end Thresholds

namespace RunConfig

variable {c : RunConfig} {n : Int}

theorem enabled_optimizerSettings (hyes : c.optimize.isYes = true) :
    c.optimizerSettings.enabled = true := by
  rw [optimizerSettings, hyes]
  cases c.level <;> rfl

theorem maxPerFunction_optimizerSettings (hyes : c.optimize.isYes = true)
    (hlimit : count c.maxPerFunction = .ok n) :
    c.optimizerSettings.maxPerFunction = c.maxPerFunction := by
  have hgiven : c.maxPerFunction.isAbsent = false := by
    cases hvalue : c.maxPerFunction with
    | absent =>
        rw [hvalue] at hlimit
        cases hlimit
    | _ => rfl
  rw [optimizerSettings, hyes]
  exact if_neg (Bool.eq_false_iff.mp hgiven)

end RunConfig

/-- Of every function an optimized run keeps the best mutations, as many as the limit says, or all but as
many as it says if it is negative.  So the limit holds for every list of mutations just when it is not
negative, or no complexity at all is admitted.  The options can be read for every list if the least
complexity is an amount. -/
theorem function_limit_holds_iff {processors : Option Int} {given : Entries} {c : RunConfig} {n : Int}
    (hmade : RunConfig.ofValues processors given = .ok c)
    (hyes : (RunConfig.settingOf processors given "optimize").isYes = true)
    (hlimit : count (RunConfig.settingOf processors given "max_per_function") = .ok n) :
    (∀ mutations o, c.optimizerSettings.options (score mutations) = .ok o → ∀ k,
      othersKept o mutations k =
        ((byImpact (ofFunction k (sampled o mutations))).take
          (if 0 ≤ n then n.toNat else (ofFunction k (sampled o mutations)).length - n.natAbs)).filter
            fun candidate => !isBoundary candidate.mutation) ∧
    ((∀ mutations o, c.optimizerSettings.options (score mutations) = .ok o → ∀ k,
        ((othersKept o mutations k).length : Int) ≤ max n 0) ↔
      0 ≤ n ∨ ¬ HasThreshold c.optimizerSettings.minComplexity) ∧
    ∀ x, c.optimizerSettings.minComplexity = .amount x → ∀ mutations,
      ∃ o, c.optimizerSettings.options (score mutations) = .ok o := by
  have hvalues := RunConfig.comesFrom_of_ofValues hmade
  rw [← hvalues.optimize] at hyes
  rw [← hvalues.maxPerFunction] at hlimit
  have henabled := RunConfig.enabled_optimizerSettings hyes
  rw [← RunConfig.maxPerFunction_optimizerSettings hyes hlimit] at hlimit
  have hkept : ∀ mutations o, c.optimizerSettings.options (score mutations) = .ok o → ∀ k,
      othersKept o mutations k =
        ((byImpact (ofFunction k (sampled o mutations))).take
          (if 0 ≤ n then n.toNat else (ofFunction k (sampled o mutations)).length - n.natAbs)).filter
            fun candidate => !isBoundary candidate.mutation := by
    intro mutations o hoptions k
    rw [othersKept_of_options henabled hoptions hlimit, takeUpTo_eq, (byImpact_perm _).length_eq]
  refine ⟨hkept, ⟨fun hcap => ?_, ?_⟩, fun x hx mutations =>
    exists_options_eq_ok henabled hlimit hx (score mutations)⟩
  · by_contra hexceeded
    obtain ⟨hnegative, hthreshold⟩ := not_or.mp hexceeded
    obtain ⟨mutations, o, k, hoptions, hsome⟩ := exists_othersKept_of_neg henabled hlimit
      (not_not.mp hthreshold) (Int.not_le.mp hnegative)
    have hle := hcap mutations o hoptions k
    have hpos := List.length_pos_iff.mpr hsome
    omega
  · rintro (hnonneg | hnone) mutations o hoptions k
    · rw [hkept mutations o hoptions k, if_pos hnonneg]
      have hle := (List.length_filter_le (fun candidate : Candidate => !isBoundary candidate.mutation)
        ((byImpact (ofFunction k (sampled o mutations))).take n.toNat)).trans (List.length_take_le _ _)
      omega
    · have hnothing := sampled_eq_nil_of_not_hasThreshold henabled hoptions hnone
      rw [hkept mutations o hoptions k, hnothing]
      simp [ofFunction, byImpact]

/-- The settings of an optimized run with a limit of functions. -/
def conservativeWithLimit (n : Int) : Entries :=
  [("timeout", .whole 5), ("optimize", .flag true), ("optimize_level", .text "conservative"),
    ("max_per_function", .whole n)]

/-- The program `a + b`. -/
def sumOfNames : Tree :=
  .node .module 0 [.list [.node .expressionStatement 1 [.node .binOp 1
    [nameOn 1 "a", .node (.binary .add) 0 [], nameOn 1 "b"]]]]

/-- A limit of one leaves one of the two mutations of a sum. -/
theorem one_mutation_of_sum_kept : ∃ c found o,
    RunConfig.ofValues none (conservativeWithLimit 1) = .ok c ∧
      mutationsOf [.arithmetic] "a.py" sumOfNames = .ok found ∧
      c.optimizerSettings.options (score found) = .ok o ∧
      (sampled o found).length = 2 ∧ (othersKept o found ⟨"a.py", 0⟩).length ≤ 1 := by
  have hmade : ∃ c, RunConfig.ofValues none (conservativeWithLimit 1) = .ok c ∧
      c.optimizerSettings = ⟨true, .whole 1, .whole 1, true⟩ := ⟨_, rfl, rfl⟩
  obtain ⟨c, hmade, hsettings⟩ := hmade
  obtain ⟨-, hcap, -⟩ := function_limit_holds_iff (n := 1) hmade rfl rfl
  rw [hsettings] at hcap
  have hfound : ∃ found, mutationsOf [.arithmetic] "a.py" sumOfNames = .ok found ∧
      OptimizerSettings.options ⟨true, .whole 1, .whole 1, true⟩ (score found) =
        .ok ⟨true, 1, 1, true⟩ ∧ (sampled ⟨true, 1, 1, true⟩ found).length = 2 :=
    ⟨_, rfl, by cbv, by cbv⟩
  obtain ⟨found, hfound, hoptions, hsampled⟩ := hfound
  have hle := hcap.mpr (.inl (by decide)) found _ hoptions ⟨"a.py", 0⟩
  refine ⟨c, found, _, hmade, hfound, hsettings ▸ hoptions, hsampled, ?_⟩
  omega

/-- A limit below zero is accepted, and it leaves one of them as well. -/
theorem limit_below_zero_leaves_mutation : ∃ c found o,
    RunConfig.ofValues none (conservativeWithLimit (-1)) = .ok c ∧
      Source.parse? "a + b\n" = some sumOfNames ∧
      mutationsOf [.arithmetic] "a.py" sumOfNames = .ok found ∧
      c.optimizerSettings.options (score found) = .ok o ∧
      ¬ ((othersKept o found ⟨"a.py", 0⟩).length : Int) ≤ max (-1) 0 := by
  have hmade : ∃ c, RunConfig.ofValues none (conservativeWithLimit (-1)) = .ok c ∧
      c.optimizerSettings = ⟨true, .whole 1, .whole (-1), true⟩ := ⟨_, rfl, rfl⟩
  obtain ⟨c, hmade, hsettings⟩ := hmade
  have hfound : ∃ found, mutationsOf [.arithmetic] "a.py" sumOfNames = .ok found ∧
      OptimizerSettings.options ⟨true, .whole 1, .whole (-1), true⟩ (score found) =
        .ok ⟨true, 1, -1, true⟩ ∧
      (othersKept ⟨true, 1, -1, true⟩ found ⟨"a.py", 0⟩).length = 1 :=
    ⟨_, rfl, by cbv, by cbv⟩
  obtain ⟨found, hfound, hoptions, hkept⟩ := hfound
  refine ⟨c, found, _, hmade, by decide +kernel, hfound, hsettings ▸ hoptions, ?_⟩
  rw [hkept]
  decide

end Settings

end MutationTesting
