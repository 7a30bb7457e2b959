import MutationTesting.Proofs.Optimizer.Reordering

/-!
# The best of every group

A stage that works group by group leaves in each group what it makes of that group, and puts the
groups in ascending order of their keys.  A list in that order is given by its groups.

A limit keeps the candidates with the highest scores of each function, and sampling does so in each
cluster.  Among equal scores the earlier candidate wins.
-/

namespace MutationTesting.Optimizer

section Groups

variable {α κ : Type} [DecidableEq κ] {key : α → κ} {le : κ → κ → Bool}

omit [DecidableEq κ] in
theorem flatMap_eq_of_nodup {keys : List κ} (hkeys : keys.Nodup) {k : κ} (hk : k ∈ keys)
    {part : κ → List α} (hother : ∀ k' ∈ keys, k' ≠ k → part k' = []) :
    keys.flatMap part = part k := by
  induction keys with
  | nil => cases hk
  | cons first rest ih =>
      obtain ⟨hfirst, hrest⟩ := List.nodup_cons.mp hkeys
      obtain ⟨hotherFirst, hotherRest⟩ := List.forall_mem_cons.mp hother
      rw [List.flatMap_cons]
      rcases List.mem_cons.mp hk with rfl | hlater
      · have hnone : rest.flatMap part = [] := List.flatMap_eq_nil_iff.mpr fun k' hk' =>
          hotherRest k' hk' fun heq => hfirst (heq ▸ hk')
        rw [hnone, List.append_nil]
      · have hne : first ≠ k := fun heq => hfirst (heq ▸ hlater)
        rw [hotherFirst hne, List.nil_append, ih hrest hlater hotherRest]

theorem mem_sorted_keys {items : List α} {k : κ} :
    k ∈ (items.map key).eraseDups.mergeSort le ↔ ∃ item ∈ items, key item = k := by
  rw [List.mem_mergeSort, List.mem_eraseDups, List.mem_map]

theorem key_eq_of_mem_group {use : List α → List α} (huse : ∀ group, (use group).Subperm group)
    {items : List α} {k : κ} {item : α}
    (hitem : item ∈ use (items.filter fun item => key item = k)) : key item = k :=
  of_decide_eq_true (List.mem_filter.mp ((huse _).subset hitem)).2

/-- What is made of all groups holds in each group what is made of that one. -/
theorem filter_flatMap_groups (key : α → κ) (le : κ → κ → Bool) {use : List α → List α}
    (huse : ∀ group, (use group).Subperm group) (items : List α) (k : κ) :
    ((groups key le items).flatMap use).filter (fun item => key item = k) =
      use (items.filter fun item => key item = k) := by
  have hkeep : (use (items.filter fun item => key item = k)).filter (fun item => key item = k) =
      use (items.filter fun item => key item = k) :=
    List.filter_eq_self.mpr fun item hitem => decide_eq_true (key_eq_of_mem_group huse hitem)
  have hdrop : ∀ k', k' ≠ k →
      (use (items.filter fun item => key item = k')).filter (fun item => key item = k) = [] := by
    intro k' hne
    refine List.filter_eq_nil_iff.mpr fun item hitem hkey => hne ?_
    exact (key_eq_of_mem_group huse hitem).symm.trans (of_decide_eq_true hkey)
  rw [groups, List.flatMap_map, List.filter_flatMap]
  by_cases hk : k ∈ (items.map key).eraseDups.mergeSort le
  · have hnodup : ((items.map key).eraseDups.mergeSort le).Nodup :=
      (List.mergeSort_perm _ le).nodup_iff.mpr (nodup_eraseDups _)
    rw [flatMap_eq_of_nodup hnodup hk fun k' _ hne => hdrop k' hne, hkeep]
  · have hnone : items.filter (fun item => key item = k) = [] :=
      List.filter_eq_nil_iff.mpr fun item hitem hkey =>
        hk (mem_sorted_keys.mpr ⟨item, hitem, of_decide_eq_true hkey⟩)
    have hempty : use [] = [] := List.subperm_nil.mp (huse [])
    rw [hnone, hempty]
    refine List.flatMap_eq_nil_iff.mpr fun k' hk' => hdrop k' fun heq => ?_
    exact hk (heq ▸ hk')

/-- What is made of all groups is in order if it is so within each group, and across groups of
ascending keys. -/
theorem pairwise_flatMap_groups (hle : IsTotalOrder le) {use : List α → List α}
    (huse : ∀ group, (use group).Subperm group) {InOrder : α → α → Prop} {items : List α}
    (hwithin : ∀ k, (use (items.filter fun item => key item = k)).Pairwise InOrder)
    (hacross : ∀ a b, key a ≠ key b → le (key a) (key b) = true → InOrder a b) :
    ((groups key le items).flatMap use).Pairwise InOrder := by
  have hsorted : ((items.map key).eraseDups.mergeSort le).Pairwise fun k k' =>
      k ≠ k' ∧ le k k' = true :=
    ((List.mergeSort_perm _ le).nodup_iff.mpr (nodup_eraseDups _)).and
      (List.pairwise_mergeSort hle.trans hle.total _)
  rw [groups, List.flatMap_map, List.pairwise_flatMap]
  refine ⟨fun k _ => hwithin k, hsorted.imp ?_⟩
  rintro k k' ⟨hne, hlek⟩ a ha b hb
  rw [← key_eq_of_mem_group huse ha, ← key_eq_of_mem_group huse hb] at hne hlek
  exact hacross a b hne hlek

/-- A list is as long as its groups are together. -/
theorem length_eq_sum_groups (key : α → κ) {keys : List κ} (hkeys : keys.Nodup) {items : List α}
    (hitems : ∀ item ∈ items, key item ∈ keys) :
    items.length = (keys.map fun k => (items.filter fun item => key item = k).length).sum := by
  rw [← (flatMap_filter_perm key hkeys hitems).length_eq, List.length_flatMap]

omit [DecidableEq κ] in
theorem IsTotalOrder.refl (hle : IsTotalOrder le) (k : κ) : le k k = true := by
  simpa using hle.total k k

theorem pairwise_key_flatMap_groups (key : α → κ) (hle : IsTotalOrder le) {use : List α → List α}
    (huse : ∀ group, (use group).Subperm group) (items : List α) :
    ((groups key le items).flatMap use).Pairwise fun a b => le (key a) (key b) = true := by
  refine pairwise_flatMap_groups hle huse (fun k => ?_) fun _ _ _ hlek => hlek
  refine List.pairwise_of_forall_mem_list fun a ha b hb => ?_
  rw [key_eq_of_mem_group huse ha, key_eq_of_mem_group huse hb]
  exact hle.refl k

theorem mem_iff_of_groups_eq {items items' : List α}
    (hgroups : ∀ k, items.filter (fun item => key item = k) =
      items'.filter fun item => key item = k) (item : α) : item ∈ items ↔ item ∈ items' := by
  have hgroup : ∀ list : List α,
      item ∈ list ↔ item ∈ list.filter fun other => key other = key item := by
    intro list
    simp
  rw [hgroup items, hgroup items', hgroups]

/-- A list in ascending order of keys is given by its groups. -/
theorem eq_of_groups_eq (hle : IsTotalOrder le) {items items' : List α}
    (hitems : items.Pairwise fun a b => le (key a) (key b) = true)
    (hitems' : items'.Pairwise fun a b => le (key a) (key b) = true)
    (hgroups : ∀ k, items.filter (fun item => key item = k) =
      items'.filter fun item => key item = k) : items = items' := by
  have hmem := mem_iff_of_groups_eq hgroups
  induction items generalizing items' with
  | nil =>
      refine (List.eq_nil_iff_forall_not_mem.mpr fun item hitem => ?_).symm
      exact List.not_mem_nil ((hmem item).mpr hitem)
  | cons a rest ih =>
      cases items' with
      | nil => exact absurd ((hmem a).mp List.mem_cons_self) List.not_mem_nil
      | cons b rest' =>
          obtain ⟨ha, hrest⟩ := List.pairwise_cons.mp hitems
          obtain ⟨hb, hrest'⟩ := List.pairwise_cons.mp hitems'
          have hkeys : key a = key b := by
            -- each of the two comes first in its list, so neither key is the greater one
            rcases List.mem_cons.mp ((hmem b).mpr List.mem_cons_self) with heq | hlater
            · rw [heq]
            · rcases List.mem_cons.mp ((hmem a).mp List.mem_cons_self) with heq | hlater'
              · rw [heq]
              · exact hle.antisymm _ _ (ha b hlater) (hb a hlater')
          have hfirst := hgroups (key a)
          rw [List.filter_cons_of_pos (by simp), List.filter_cons_of_pos (by simp [hkeys])]
            at hfirst
          obtain ⟨rfl, -⟩ := List.cons.inj hfirst
          have hrests : ∀ k, rest.filter (fun item => key item = k) =
              rest'.filter fun item => key item = k := by
            intro k
            have hgroup := hgroups k
            rw [List.filter_cons, List.filter_cons] at hgroup
            split at hgroup
            · exact (List.cons.inj hgroup).2
            · exact hgroup
          rw [ih hrest hrest' hrests (mem_iff_of_groups_eq hrests)]

end Groups

/-- Whether the candidate at one place of a list is preferred to the one at another place: its score
is higher, or equal and it comes earlier. -/
def Outranks (cs : List Candidate) (i j : Nat) : Prop :=
  ∃ a b, cs[i]? = some a ∧ cs[j]? = some b ∧ (b.impact < a.impact ∨ b.impact = a.impact ∧ i < j)

/-- Whether so many candidates of a list are kept, those at some of its places, and each of them is
preferred to each one that is dropped. -/
structure KeepsBest (cs kept : List Candidate) (count : Nat) (places : List Nat) : Prop where
  length_places : places.length = count
  nodup_places : places.Nodup
  entries : kept.map some = places.map (cs[·]?)
  best : ∀ i ∈ places, ∀ j < cs.length, j ∉ places → Outranks cs i j

theorem KeepsBest.length_kept {cs kept : List Candidate} {count : Nat} {places : List Nat}
    (hkeeps : KeepsBest cs kept count places) : kept.length = count := by
  have hlengths := congrArg List.length hkeeps.entries
  rwa [List.length_map, List.length_map, hkeeps.length_places] at hlengths

/-- The candidates of one function, in order. -/
def ofFunction (k : FunctionKey) (cs : List Candidate) : List Candidate :=
  cs.filter fun c => functionKey c.mutation = k

/-- The candidates of one cluster, in order. -/
def ofCluster (k : ClusterKey) (cs : List Candidate) : List Candidate :=
  cs.filter fun c => clusterKey c.mutation = k

/-- Clusters are ordered by function, then by strategy. -/
def ClusterKey.Le (a b : ClusterKey) : Prop :=
  a.function ≠ b.function ∧ a.function.le b.function = true ∨
    a.function = b.function ∧ a.strategy ≤ b.strategy

theorem ofCluster_eq (k : ClusterKey) (cs : List Candidate) :
    ofCluster k cs =
      (ofFunction k.function cs).filter fun c => c.mutation.strategy = k.strategy := by
  rw [ofCluster, ofFunction, List.filter_filter]
  refine List.filter_congr fun c _ => ?_
  rw [clusterKey, ← Bool.decide_and, decide_eq_decide, ClusterKey.mk.injEq, and_comm]

section Places

variable (cs : List Candidate)

/-- A list with the place of each candidate, the preferred ones first. -/
def ranked : List (Candidate × Nat) :=
  cs.zipIdx.mergeSort (List.zipIdxLE fun a b => decide (b.impact ≤ a.impact))

theorem ranked_perm : (ranked cs).Perm cs.zipIdx := List.mergeSort_perm _ _

theorem map_fst_ranked : (ranked cs).map Prod.fst = byImpact cs := List.mergeSort_zipIdx

theorem nodup_snd_ranked : ((ranked cs).map Prod.snd).Nodup := by
  rw [((ranked_perm cs).map Prod.snd).nodup_iff, List.zipIdx_map_snd]
  exact List.nodup_range'

variable {cs}

theorem getElem?_of_mem_ranked {entry : Candidate × Nat} (hentry : entry ∈ ranked cs) :
    cs[entry.2]? = some entry.1 :=
  List.mk_mem_zipIdx_iff_getElem?.mp ((ranked_perm cs).mem_iff.mp hentry)

theorem exists_mem_ranked {place : Nat} (hplace : place < cs.length) :
    ∃ c, (c, place) ∈ ranked cs :=
  ⟨cs[place], (ranked_perm cs).mem_iff.mpr
    (List.mk_mem_zipIdx_iff_getElem?.mpr (List.getElem?_eq_getElem hplace))⟩

theorem pairwise_ranked (cs : List Candidate) : (ranked cs).Pairwise fun a b =>
    b.1.impact < a.1.impact ∨ b.1.impact = a.1.impact ∧ a.2 ≤ b.2 := by
  have htrans : ∀ a b c : Candidate, decide (b.impact ≤ a.impact) = true →
      decide (c.impact ≤ b.impact) = true → decide (c.impact ≤ a.impact) = true := by
    simp only [decide_eq_true_eq]
    omega
  have htotal : ∀ a b : Candidate,
      (decide (b.impact ≤ a.impact) || decide (a.impact ≤ b.impact)) = true := by
    simp only [Bool.or_eq_true, decide_eq_true_eq]
    omega
  refine (List.pairwise_mergeSort (List.zipIdxLE_trans htrans)
    (List.zipIdxLE_total htotal) cs.zipIdx).imp fun {a b} hle => ?_
  simp only [List.zipIdxLE, decide_eq_true_eq, Bool.if_false_right, Bool.if_true_right,
    Bool.and_eq_true, Bool.or_eq_true, Bool.not_eq_true', decide_eq_false_iff_not] at hle
  omega

theorem pairwise_byImpact (cs : List Candidate) :
    (byImpact cs).Pairwise fun a b => decide (b.impact ≤ a.impact) = true := by
  rw [← map_fst_ranked, List.pairwise_map]
  exact (pairwise_ranked cs).imp fun hrank =>
    decide_eq_true (hrank.elim Nat.le_of_lt fun h => h.1.le)

theorem keepsBest_self (cs : List Candidate) :
    KeepsBest cs cs cs.length (List.range cs.length) where
  length_places := List.length_range
  nodup_places := List.nodup_range
  entries := List.ext_getElem (by simp) fun place _ _ => by simp
  best := fun _ _ j hj hdropped => absurd (List.mem_range.mpr hj) hdropped

/-- Taking the best of a list keeps those that are preferred to all others. -/
theorem exists_places_take_byImpact (cs : List Candidate) (count : Nat) :
    ∃ places, KeepsBest cs ((byImpact cs).take count) (min count cs.length) places := by
  have hlength : (ranked cs).length = cs.length := by
    rw [(ranked_perm cs).length_eq, List.length_zipIdx]
  refine ⟨((ranked cs).take count).map Prod.snd, ?_, ?_, ?_, ?_⟩
  · rw [List.length_map, List.length_take, hlength]
  · exact (nodup_snd_ranked cs).sublist ((List.take_sublist count _).map Prod.snd)
  · rw [← map_fst_ranked, ← List.map_take, List.map_map, List.map_map]
    exact List.map_congr_left fun entry hentry =>
      (getElem?_of_mem_ranked (List.mem_of_mem_take hentry)).symm
  · intro i hi j hj hdropped
    obtain ⟨⟨a, i⟩, ha, rfl⟩ := List.mem_map.mp hi
    obtain ⟨b, hb⟩ := exists_mem_ranked hj
    have hsplit := pairwise_ranked cs
    rw [← List.take_append_drop count (ranked cs)] at hb hsplit
    have hb : (b, j) ∈ (ranked cs).drop count := by
      rcases List.mem_append.mp hb with hkept | hrest
      · exact absurd (List.mem_map_of_mem hkept) hdropped
      · exact hrest
    have hne : i ≠ j := fun heq => hdropped (heq ▸ hi)
    have hrank := (List.pairwise_append.mp hsplit).2.2 _ ha _ hb
    refine ⟨a, b, getElem?_of_mem_ranked (List.mem_of_mem_take ha),
      getElem?_of_mem_ranked (List.mem_of_mem_drop hb), ?_⟩
    dsimp only at hrank ⊢
    omega

end Places

section Stages

theorem takeUpTo_natCast {α : Type} (n : Nat) (items : List α) :
    takeUpTo (n : Int) items = items.take n := by
  rw [takeUpTo, if_neg (Int.not_lt.mpr (Int.natCast_nonneg n)), Int.toNat_natCast]

theorem takeUpTo_byImpact_subperm (limit : Int) (group : List Candidate) :
    (takeUpTo limit (byImpact group)).Subperm group :=
  (takeUpTo_sublist limit _).subperm.trans (byImpact_perm group).subperm

theorem flatMap_sample_subperm (group : List Candidate) :
    ((strategyGroups group).flatMap sample).Subperm group :=
  (flatMap_subperm sample_subperm _).trans (groups_flatten_perm _ _ group).subperm

/-- A limit leaves in each function the best of that function. -/
theorem ofFunction_limitPerFunction (k : FunctionKey) (limit : Int) (cs : List Candidate) :
    ofFunction k (limitPerFunction limit cs) = takeUpTo limit (byImpact (ofFunction k cs)) :=
  filter_flatMap_groups (fun c : Candidate => functionKey c.mutation) FunctionKey.le
    (takeUpTo_byImpact_subperm limit) cs k

theorem ofFunction_sampleClusters (k : FunctionKey) (cs : List Candidate) :
    ofFunction k (sampleClusters cs) = (strategyGroups (ofFunction k cs)).flatMap sample :=
  filter_flatMap_groups (fun c : Candidate => functionKey c.mutation) FunctionKey.le
    flatMap_sample_subperm cs k

/-- Sampling leaves in each cluster the sample of that cluster. -/
theorem ofCluster_sampleClusters (k : ClusterKey) (cs : List Candidate) :
    ofCluster k (sampleClusters cs) = sample (ofCluster k cs) := by
  rw [ofCluster_eq, ofFunction_sampleClusters, ofCluster_eq k cs]
  exact filter_flatMap_groups (fun c : Candidate => c.mutation.strategy) _ sample_subperm
    (ofFunction k.function cs) k.strategy

theorem pairwise_limitPerFunction (limit : Int) (cs : List Candidate) :
    (limitPerFunction limit cs).Pairwise fun a b =>
      (functionKey a.mutation).le (functionKey b.mutation) = true :=
  pairwise_key_flatMap_groups (fun c : Candidate => functionKey c.mutation)
    isTotalOrder_functionKey (takeUpTo_byImpact_subperm limit) cs

theorem pairwise_sampleClusters (cs : List Candidate) :
    (sampleClusters cs).Pairwise fun a b =>
      (clusterKey a.mutation).Le (clusterKey b.mutation) := by
  refine pairwise_flatMap_groups isTotalOrder_functionKey flatMap_sample_subperm (fun k => ?_)
    fun a b hne hle => Or.inl ⟨hne, hle⟩
  have hstrategies := pairwise_key_flatMap_groups (fun c : Candidate => c.mutation.strategy)
    isTotalOrder_strategy sample_subperm (ofFunction k cs)
  refine hstrategies.imp_of_mem fun {a b} ha hb hle => Or.inr ⟨?_, of_decide_eq_true hle⟩
  have hkey : ∀ c ∈ (strategyGroups (ofFunction k cs)).flatMap sample, functionKey c.mutation = k :=
    fun c hc => of_decide_eq_true
      (List.mem_filter.mp ((flatMap_sample_subperm (ofFunction k cs)).subset hc)).2
  exact (hkey a ha).trans (hkey b hb).symm

/-- The best candidates are still the best when they are put in order again. -/
theorem take_byImpact_take (n : Nat) (cs : List Candidate) :
    (byImpact ((byImpact cs).take n)).take n = (byImpact cs).take n := by
  have hsorted : ((byImpact cs).take n).Pairwise fun a b => decide (b.impact ≤ a.impact) = true :=
    (pairwise_byImpact cs).sublist (List.take_sublist n _)
  rw [byImpact, List.mergeSort_of_pairwise hsorted, List.take_take, Nat.min_self]

theorem limitPerFunction_limitPerFunction (n : Nat) (cs : List Candidate) :
    limitPerFunction n (limitPerFunction n cs) = limitPerFunction n cs := by
  refine eq_of_groups_eq isTotalOrder_functionKey (pairwise_limitPerFunction _ _)
    (pairwise_limitPerFunction _ _) fun k => ?_
  change ofFunction k _ = ofFunction k _
  rw [ofFunction_limitPerFunction, ofFunction_limitPerFunction, takeUpTo_natCast, takeUpTo_natCast,
    take_byImpact_take]

theorem ceil_third (n : Nat) : ⌈(n : ℚ) / 3⌉₊ = (n + 2) / 3 := by
  refine eq_of_forall_ge_iff fun bound => ?_
  rw [Nat.ceil_le, div_le_iff₀ (by norm_num)]
  norm_cast
  omega

/-- How many of a cluster are sampled: all of a small one, else a third. -/
theorem sampleSize_eq (n : Nat) : sampleSize n = if n ≤ 3 then n else max 2 ⌈(n : ℚ) / 3⌉₊ := by
  rw [sampleSize, ceil_third]

theorem exists_places_sample (cluster : List Candidate) :
    ∃ places, KeepsBest cluster (sample cluster) (sampleSize cluster.length) places := by
  rw [sample]
  split
  next hsmall =>
      rw [sampleSize, if_pos hsmall]
      exact ⟨_, keepsBest_self cluster⟩
  next hlarge =>
      have hfits : min (sampleSize cluster.length) cluster.length = sampleSize cluster.length := by
        rw [sampleSize, if_neg hlarge]
        omega
      have hbest := exists_places_take_byImpact cluster (sampleSize cluster.length)
      rwa [hfits] at hbest

theorem length_sample (cluster : List Candidate) :
    (sample cluster).length = sampleSize cluster.length := by
  obtain ⟨places, hplaces⟩ := exists_places_sample cluster
  exact hplaces.length_kept

end Stages

/-- A limit keeps of every function so many candidates, or all, and sampling keeps a part of every
cluster that grows with it.  What is kept is preferred to what is dropped.  Both take candidates of
the list only, each as often as it stands there at most, and put functions and clusters in ascending
order.  A limit that is used twice has the effect of one. -/
theorem best_of_every_group_kept (cs : List Candidate) (n : Nat) :
    (∀ k : FunctionKey, ∃ places, KeepsBest (ofFunction k cs) (ofFunction k (limitPerFunction n cs))
        (min n (ofFunction k cs).length) places) ∧
      (∀ k : ClusterKey, let size := (ofCluster k cs).length
        min size 2 ≤ (ofCluster k (sampleClusters cs)).length ∧
          ∃ places, KeepsBest (ofCluster k cs) (ofCluster k (sampleClusters cs))
            (if size ≤ 3 then size else max 2 ⌈(size : ℚ) / 3⌉₊) places) ∧
      (limitPerFunction n cs).Subperm cs ∧ (sampleClusters cs).Subperm cs ∧
      ((limitPerFunction n cs).Pairwise fun a b =>
        (functionKey a.mutation).le (functionKey b.mutation) = true) ∧
      ((sampleClusters cs).Pairwise fun a b => (clusterKey a.mutation).Le (clusterKey b.mutation)) ∧
      limitPerFunction n (limitPerFunction n cs) = limitPerFunction n cs := by
  refine ⟨fun k => ?_, ?_, limitPerFunction_subperm _ cs, sampleClusters_subperm cs,
    pairwise_limitPerFunction _ cs, pairwise_sampleClusters cs,
    limitPerFunction_limitPerFunction n cs⟩
  · rw [ofFunction_limitPerFunction, takeUpTo_natCast]
    exact exists_places_take_byImpact (ofFunction k cs) n
  · intro k size
    rw [ofCluster_sampleClusters, ← sampleSize_eq]
    refine ⟨?_, exists_places_sample (ofCluster k cs)⟩
    rw [length_sample, sampleSize]
    split <;> omega

end MutationTesting.Optimizer
