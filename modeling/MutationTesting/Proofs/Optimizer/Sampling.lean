import Mathlib.Data.List.Perm.Subperm
import MutationTesting.Optimizer.Sampling
import MutationTesting.Proofs.Text.Order

/-!
# Sampling keeps no candidate twice

The groups of a list hold its items, each as often as it stands there.  A sample and a limit take
some items of every group, so what they keep is part of the list, in another order.
-/

namespace MutationTesting.Optimizer

section Groups

variable {α κ : Type} [DecidableEq κ]

/-- Items sorted into the groups of some keys, among which is the key of every item. -/
theorem flatMap_filter_perm (key : α → κ) {keys : List κ} (hkeys : keys.Nodup) {items : List α}
    (hitems : ∀ item ∈ items, key item ∈ keys) :
    (keys.flatMap fun k => items.filter fun item => key item = k).Perm items := by
  induction keys generalizing items with
  | nil =>
      have hempty : items = [] := List.eq_nil_iff_forall_not_mem.mpr fun item hitem =>
        List.not_mem_nil (hitems item hitem)
      rw [hempty, List.flatMap_nil]
  | cons first rest ih =>
      obtain ⟨hfirst, hrest⟩ := List.nodup_cons.mp hkeys
      let others := items.filter fun item => !decide (key item = first)
      have hothers : ∀ item ∈ others, key item ∈ rest := by
        intro item hitem
        obtain ⟨hmem, hkey⟩ := List.mem_filter.mp hitem
        rcases List.mem_cons.mp (hitems item hmem) with heq | hlater
        · simp [heq] at hkey
        · exact hlater
      have hsame : (rest.flatMap fun k => items.filter fun item => key item = k) =
          rest.flatMap fun k => others.filter fun item => key item = k := by
        refine List.flatMap_congr fun k hk => ?_
        rw [List.filter_filter]
        refine List.filter_congr fun item _ => ?_
        by_cases hkey : key item = k
        · have hne : k ≠ first := fun heq => hfirst (heq ▸ hk)
          simp [hkey, hne]
        · simp [hkey]
      rw [List.flatMap_cons, hsame]
      exact ((ih hrest hothers).append_left _).trans (List.filter_append_perm _ items)

theorem groups_flatten_perm (key : α → κ) (le : κ → κ → Bool) (items : List α) :
    (groups key le items).flatten.Perm items := by
  have hsorted := List.mergeSort_perm (items.map key).eraseDups le
  refine flatMap_filter_perm key (hsorted.nodup_iff.mpr (nodup_eraseDups _)) fun item hitem => ?_
  rw [hsorted.mem_iff, List.mem_eraseDups]
  exact List.mem_map_of_mem hitem

theorem flatMap_subperm {keep : List α → List α} (hkeep : ∀ group, (keep group).Subperm group)
    (parts : List (List α)) : (parts.flatMap keep).Subperm parts.flatten := by
  induction parts with
  | nil => exact List.Subperm.refl []
  | cons first rest ih => exact (hkeep first).append ih

theorem takeUpTo_sublist (count : Int) (items : List α) : (takeUpTo count items).Sublist items := by
  rw [takeUpTo]
  split <;> exact List.take_sublist _ _

end Groups

theorem byImpact_perm (cs : List Candidate) : (byImpact cs).Perm cs := List.mergeSort_perm cs _

theorem sample_subperm (cluster : List Candidate) : (sample cluster).Subperm cluster := by
  rw [sample]
  split
  · exact List.Subperm.refl cluster
  · exact (List.take_sublist _ _).subperm.trans (byImpact_perm cluster).subperm

theorem sampleClusters_subperm (cs : List Candidate) : (sampleClusters cs).Subperm cs := by
  have hgroup : ∀ group : List Candidate,
      ((strategyGroups group).flatMap sample).Subperm group := fun group =>
    (flatMap_subperm sample_subperm _).trans (groups_flatten_perm _ _ group).subperm
  exact (flatMap_subperm hgroup _).trans (groups_flatten_perm _ _ cs).subperm

theorem limitPerFunction_subperm (limit : Int) (cs : List Candidate) :
    (limitPerFunction limit cs).Subperm cs := by
  have hgroup : ∀ group : List Candidate, (takeUpTo limit (byImpact group)).Subperm group :=
    fun group => (takeUpTo_sublist limit _).subperm.trans (byImpact_perm group).subperm
  exact (flatMap_subperm hgroup _).trans (groups_flatten_perm _ _ cs).subperm

end MutationTesting.Optimizer
