import MutationTesting.Optimizer.Pipeline
import MutationTesting.Proofs.Optimizer.Sampling

/-!
# Boundary mutations come first

No stage of the optimizer makes a candidate up or keeps one twice.  Where boundary mutations are
kept, the last stage puts all of them in front, as they stood in the list of all mutations; so a
limit that lets any other mutation through lets all of them through.
-/

namespace MutationTesting.Optimizer

/-- Whether a candidate stands for the entry of a list at its place, with the score of that entry. -/
structure Candidate.StandsFor (c : Candidate) (mutations : List Mutation) : Prop where
  entry : mutations[c.place]? = some c.mutation
  scored : c.impact = Optimizer.impact c.mutation

section Score

variable (mutations : List Mutation)

theorem map_mutation_score : (score mutations).map Candidate.mutation = mutations := by
  rw [score, List.map_map]
  exact List.zipIdx_map_fst 0 mutations

theorem length_score : (score mutations).length = mutations.length := by
  rw [score, List.length_map, List.length_zipIdx]

theorem nodup_places_score : ((score mutations).map Candidate.place).Nodup := by
  have hplaces : (score mutations).map Candidate.place = List.range' 0 mutations.length := by
    rw [score, List.map_map]
    exact List.zipIdx_map_snd 0 mutations
  rw [hplaces]
  exact List.nodup_range'

variable {mutations}

theorem standsFor_of_mem_score {c : Candidate} (hc : c ∈ score mutations) :
    c.StandsFor mutations := by
  obtain ⟨⟨m, place⟩, hentry, rfl⟩ := List.mem_map.mp hc
  exact ⟨List.mk_mem_zipIdx_iff_getElem?.mp hentry, rfl⟩

theorem filter_score (test : Mutation → Bool) :
    ((score mutations).filter fun c => test c.mutation).map Candidate.mutation =
      mutations.filter test := by
  have hfilter := List.filter_map (f := Candidate.mutation) (p := test) (l := score mutations)
  rw [map_mutation_score] at hfilter
  rw [hfilter]
  rfl

end Score

section Select

variable {o : Options} {scored : List Candidate}

/-- The candidates that are left before boundary mutations are put back. -/
def limited (o : Options) (scored : List Candidate) : List Candidate :=
  limitPerFunction o.maxPerFunction (sampleClusters (dropSimple o.minComplexity
    (dropEquivalent scored)))

theorem limited_subperm (o : Options) (scored : List Candidate) :
    (limited o scored).Subperm scored := by
  have hdropped : (dropSimple o.minComplexity (dropEquivalent scored)).Sublist scored :=
    List.filter_sublist.trans List.filter_sublist
  exact (limitPerFunction_subperm _ _).trans
    ((sampleClusters_subperm _).trans hdropped.subperm)

theorem select_of_keepsBoundary (hkeeps : o.keepsBoundary = true) :
    select o scored = scored.filter (fun c => isBoundary c.mutation) ++
      (limited o scored).filter fun c => !isBoundary c.mutation := by
  rw [select, if_pos hkeeps]
  rfl

theorem select_subperm (o : Options) (scored : List Candidate) :
    (select o scored).Subperm scored := by
  cases hkeeps : o.keepsBoundary with
  | false =>
      rw [select, hkeeps]
      exact limited_subperm o scored
  | true =>
      rw [select_of_keepsBoundary hkeeps]
      have hothers := (limited_subperm o scored).filter fun c => !isBoundary c.mutation
      exact (List.Subperm.append (List.Subperm.refl _) hothers).trans
        (List.filter_append_perm _ scored).subperm

end Select

section Optimize

variable {o : Options} {mutations : List Mutation}

theorem optimize_subperm (o : Options) (mutations : List Mutation) :
    (optimize o mutations).Subperm (score mutations) := by
  rw [optimize]
  split
  · exact select_subperm o _
  · exact List.Subperm.refl _

theorem standsFor_of_mem_optimize {c : Candidate} (hc : c ∈ optimize o mutations) :
    c.StandsFor mutations :=
  standsFor_of_mem_score ((optimize_subperm o mutations).subset hc)

theorem nodup_places_optimize (o : Options) (mutations : List Mutation) :
    ((optimize o mutations).map Candidate.place).Nodup := by
  obtain ⟨reordered, hperm, hsublist⟩ := optimize_subperm o mutations
  have hnodup := (nodup_places_score mutations).sublist (hsublist.map Candidate.place)
  exact ((hperm.map Candidate.place).nodup_iff).mp hnodup

theorem map_mutation_optimize_subperm (o : Options) (mutations : List Mutation) :
    ((optimize o mutations).map Candidate.mutation).Subperm mutations := by
  obtain ⟨reordered, hperm, hsublist⟩ := optimize_subperm o mutations
  have hsublist := hsublist.map Candidate.mutation
  rw [map_mutation_score] at hsublist
  exact ⟨_, hperm.map Candidate.mutation, hsublist⟩

/-- All boundary mutations in their order, and then others only. -/
theorem exists_optimize_eq_append (henabled : o.enabled = true) (hkeeps : o.keepsBoundary = true)
    (mutations : List Mutation) :
    ∃ others, (optimize o mutations).map Candidate.mutation =
        mutations.filter isBoundary ++ others ∧
      ∀ m ∈ others, isBoundary m = false := by
  refine ⟨((limited o (score mutations)).filter fun c => !isBoundary c.mutation).map
    Candidate.mutation, ?_, ?_⟩
  · rw [optimize, if_pos henabled, select_of_keepsBoundary hkeeps, List.map_append, filter_score]
  · intro m hm
    obtain ⟨c, hc, rfl⟩ := List.mem_map.mp hm
    simpa using (List.mem_filter.mp hc).2

end Optimize

/-- A part from the start of a list that goes beyond all entries of one kind, which come first,
holds all of these. -/
theorem filter_eq_of_isPrefix {α : Type} {test : α → Bool} {first others taken : List α}
    (hfirst : ∀ x ∈ first, test x = true) (hothers : ∀ x ∈ others, test x = false)
    (htaken : taken <+: first ++ others) (hbeyond : ∃ x ∈ taken, test x = false) :
    taken.filter test = first := by
  obtain ⟨left, hleft⟩ := htaken
  rcases List.append_eq_append_iff.mp hleft with ⟨rest, rfl, -⟩ | ⟨beyond, rfl, rfl⟩
  · -- the part ends among the first entries
    obtain ⟨x, hx, hfails⟩ := hbeyond
    rw [hfirst x (List.mem_append_left rest hx)] at hfails
    cases hfails
  · have hnone : beyond.filter test = [] := List.filter_eq_nil_iff.mpr fun x hx => by
      rw [hothers x (List.mem_append_left left hx)]
      exact Bool.false_ne_true
    rw [List.filter_append, hnone, List.append_nil, List.filter_eq_self.mpr hfirst]

end MutationTesting.Optimizer
