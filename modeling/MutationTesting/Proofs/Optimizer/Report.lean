import MutationTesting.Proofs.Optimizer.Levels

/-!
# What a report says

A report counts the candidates that are kept, strategy by strategy.  No stage of the optimizer makes a
candidate up or keeps one twice, so the counts are part of those of all mutations, and what is missing
is the reduction.
-/

namespace MutationTesting.Optimizer

section Tally

variable (cs : List Candidate)

/-- The names of the strategies of candidates. -/
def strategyNames (cs : List Candidate) : List String := cs.map fun c => c.mutation.strategy

theorem strategyCounts_perm : (strategyCounts cs).Perm
    ((strategyNames cs).eraseDups.map fun name => (name, (strategyNames cs).count name)) :=
  List.mergeSort_perm _ _

/-- A strategy is listed with its count just when it is one of a candidate. -/
theorem mem_strategyCounts {name : String} {count : Nat} :
    (name, count) ∈ strategyCounts cs ↔ count = (strategyNames cs).count name ∧ 0 < count := by
  rw [(strategyCounts_perm cs).mem_iff]
  simp only [List.mem_map, List.mem_eraseDups, Prod.mk.injEq]
  constructor
  · rintro ⟨_, hmem, rfl, rfl⟩
    exact ⟨rfl, List.count_pos_iff.mpr hmem⟩
  · rintro ⟨rfl, hpos⟩
    exact ⟨name, List.count_pos_iff.mp hpos, rfl, rfl⟩

theorem nodup_names_strategyCounts : ((strategyCounts cs).map Prod.fst).Nodup := by
  rw [((strategyCounts_perm cs).map Prod.fst).nodup_iff, List.map_map]
  exact (List.map_id' _).symm ▸ nodup_eraseDups _

theorem sum_strategyCounts : ((strategyCounts cs).map Prod.snd).sum = cs.length := by
  have hgroups := length_eq_sum_groups (fun name : String => name) (nodup_eraseDups (strategyNames cs))
    (fun name hname => List.mem_eraseDups.mpr hname)
  rw [strategyNames, List.length_map] at hgroups
  rw [((strategyCounts_perm cs).map Prod.snd).sum_eq, List.map_map, hgroups]
  refine congrArg List.sum (List.map_congr_left fun name _ => ?_)
  exact List.count_eq_length_filter

theorem countOrder_iff {a b : String × Nat} :
    countOrder a b = true ↔ b.2 < a.2 ∨ a.2 = b.2 ∧ a.1 ≤ b.1 := by
  simp [countOrder]

/-- The strategies are listed in descending order of their counts, and then by name. -/
theorem pairwise_strategyCounts :
    (strategyCounts cs).Pairwise fun a b => b.2 < a.2 ∨ a.2 = b.2 ∧ a.1 < b.1 := by
  have htrans : ∀ a b c, countOrder a b = true → countOrder b c = true → countOrder a c = true := by
    intro a b c hab hbc
    rw [countOrder_iff] at *
    rcases hab with hab | ⟨hab, hnames⟩
    · omega
    · rcases hbc with hbc | ⟨hbc, hnames'⟩
      · omega
      · exact .inr ⟨hab.trans hbc, le_trans hnames hnames'⟩
  have htotal : ∀ a b, (countOrder a b || countOrder b a) = true := by
    intro a b
    rw [Bool.or_eq_true, countOrder_iff, countOrder_iff]
    rcases lt_trichotomy a.2 b.2 with hlt | heq | hgt
    · exact .inr (.inl hlt)
    · exact (le_total a.1 b.1).imp (fun hname => .inr ⟨heq, hname⟩) fun hname => .inr ⟨heq.symm, hname⟩
    · exact .inl (.inl hgt)
  have hsorted := List.pairwise_mergeSort htrans htotal
    ((strategyNames cs).eraseDups.map fun name => (name, (strategyNames cs).count name))
  have hdistinct := List.pairwise_map.mp (nodup_names_strategyCounts cs)
  refine (hdistinct.and hsorted).imp ?_
  rintro a b ⟨hne, horder⟩
  exact (countOrder_iff.mp horder).imp_right fun ⟨hcount, hname⟩ =>
    ⟨hcount, lt_of_le_of_ne hname hne⟩

end Tally

theorem strategyNames_optimize_subperm (o : Options) (mutations : List Mutation) :
    (strategyNames (optimize o mutations)).Subperm (mutations.map Mutation.strategy) := by
  obtain ⟨kept, hperm, hsublist⟩ := map_mutation_optimize_subperm o mutations
  refine ⟨kept.map Mutation.strategy, ?_, hsublist.map Mutation.strategy⟩
  have hsame := hperm.map Mutation.strategy
  rwa [List.map_map] at hsame

/-- A report accounts for every mutation: what is not removed is kept, and what is kept is counted once
under its strategy.  Of no strategy more is kept than there was.  Without the optimizer everything is
kept. -/
theorem report_accounts_for_all_mutations (o : Options) (mutations : List Mutation) :
    let r := report mutations.length (optimize o mutations)
    let kept := strategyNames (optimize o mutations)
    (r.originalCount = mutations.length ∧ r.optimizedCount = (optimize o mutations).length ∧
      r.reduction = r.originalCount - r.optimizedCount ∧ 0 ≤ r.reduction) ∧
    (r.byStrategy.map Prod.fst).Nodup ∧
    (∀ name count, (name, count) ∈ r.byStrategy ↔ count = kept.count name ∧ 0 < count) ∧
    (∀ entry ∈ r.byStrategy, entry.2 ≤ (mutations.map Mutation.strategy).count entry.1) ∧
    r.byStrategy.Pairwise (fun a b => b.2 < a.2 ∨ a.2 = b.2 ∧ a.1 < b.1) ∧
    (r.byStrategy.map Prod.snd).sum = r.optimizedCount ∧
    (o.enabled = false → r.reduction = 0 ∧ ∀ name count,
      (name, count) ∈ r.byStrategy ↔
        count = (mutations.map Mutation.strategy).count name ∧ 0 < count) := by
  have hpart := strategyNames_optimize_subperm o mutations
  have hlength : (optimize o mutations).length ≤ mutations.length := by
    simpa [strategyNames] using hpart.length_le
  have hmem (name : String) (count : Nat) :
      (name, count) ∈ strategyCounts (optimize o mutations) ↔
        count = (strategyNames (optimize o mutations)).count name ∧ 0 < count :=
    mem_strategyCounts _
  refine ⟨⟨rfl, rfl, rfl, ?_⟩, nodup_names_strategyCounts _, hmem, ?_, pairwise_strategyCounts _,
    sum_strategyCounts _, fun hdisabled => ?_⟩
  · exact Int.sub_nonneg_of_le (Int.ofNat_le.mpr hlength)
  · rintro ⟨name, count⟩ hentry
    rw [((hmem name count).mp hentry).1]
    exact hpart.count_le name
  · have hall : optimize o mutations = score mutations := by
      rw [optimize, if_neg (Bool.eq_false_iff.mp hdisabled)]
    have hnames : strategyNames (score mutations) = mutations.map Mutation.strategy := by
      conv_rhs => rw [← map_mutation_score mutations, List.map_map]
      rfl
    rw [hall]
    refine ⟨?_, fun name count => ?_⟩
    · exact Int.sub_eq_zero.mpr (congrArg Int.ofNat (length_score mutations).symm)
    · rw [← hnames]
      exact mem_strategyCounts _

/-- Of four mutations of one strategy two are kept, and all of them without the optimizer. -/
theorem report_on_conjunctions : ∃ found, mutationsOf [.boolean] "m.py" conjunctionsAndTruth = .ok found ∧
    (report found.length (optimize Level.conservative.options found)).byStrategy = [("Boolean", 2)] ∧
    2 ≤ (found.map Mutation.strategy).count "Boolean" ∧
    (report found.length (optimize {} found)).reduction = 0 ∧
    ("Boolean", 4) ∈ (report found.length (optimize {} found)).byStrategy := by
  have hfound : ∃ found, mutationsOf [.boolean] "m.py" conjunctionsAndTruth = .ok found ∧
      (found.map Mutation.strategy).count "Boolean" = 4 ∧
      strategyCounts (optimize Level.conservative.options found) = [("Boolean", 2)] :=
    ⟨_, rfl, by cbv, by cbv⟩
  obtain ⟨found, hfound, hcount, hkept⟩ := hfound
  obtain ⟨-, -, -, hle, -⟩ := report_accounts_for_all_mutations Level.conservative.options found
  obtain ⟨-, -, -, -, -, -, hall⟩ := report_accounts_for_all_mutations {} found
  obtain ⟨hreduction, hlisted⟩ := hall rfl
  refine ⟨found, hfound, hkept, ?_, hreduction, ?_⟩
  · have htwo : ("Boolean", 2) ∈ strategyCounts (optimize Level.conservative.options found) := by
      rw [hkept]
      exact List.mem_singleton_self _
    exact hle _ htwo
  · exact (hlisted "Boolean" 4).mpr ⟨hcount.symm, by decide⟩

end MutationTesting.Optimizer
