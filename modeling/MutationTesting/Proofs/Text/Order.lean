import Mathlib.Data.String.Basic
import MutationTesting.Text.Order

/-!
# Sorted sets of texts

The list of a set of texts holds each of them once, in ascending order.
-/

namespace MutationTesting

section Duplicates

variable {α : Type} [DecidableEq α]

theorem nodup_eraseDups (items : List α) : items.eraseDups.Nodup := by
  cases items with
  | nil => simp
  | cons first rest =>
      rw [List.eraseDups_cons, List.nodup_cons]
      constructor
      · simp
      · exact nodup_eraseDups (rest.filter fun item => !item == first)
termination_by items.length
decreasing_by exact Nat.lt_succ_of_le (List.length_filter_le _ _)

theorem eraseDups_of_nodup {items : List α} (hitems : items.Nodup) : items.eraseDups = items := by
  induction items with
  | nil => rfl
  | cons first rest ih =>
      obtain ⟨hfirst, hrest⟩ := List.nodup_cons.mp hitems
      have hkept : rest.filter (fun item => !item == first) = rest := by
        rw [List.filter_eq_self]
        intro item hitem
        have hother : item ≠ first := fun heq => hfirst (heq ▸ hitem)
        simp [hother]
      rw [List.eraseDups_cons, hkept, ih hrest]

end Duplicates

namespace Text

@[simp]
theorem mem_sortedSet {text : String} {texts : List String} :
    text ∈ sortedSet texts ↔ text ∈ texts := by
  rw [sortedSet, List.mem_mergeSort, List.mem_eraseDups]

theorem pairwise_lt_sortedSet (texts : List String) : (sortedSet texts).Pairwise (· < ·) := by
  have hordered : (sortedSet texts).Pairwise fun a b => decide (a ≤ b) = true := by
    apply List.pairwise_mergeSort
    · intro a b c hab hbc
      exact decide_eq_true (le_trans (of_decide_eq_true hab) (of_decide_eq_true hbc))
    · intro a b
      simpa using le_total a b
  have honce : (sortedSet texts).Nodup :=
    (List.mergeSort_perm texts.eraseDups _).nodup_iff.mpr (nodup_eraseDups texts)
  exact hordered.imp₂ (fun a b hle hne => lt_of_le_of_ne (of_decide_eq_true hle) hne) honce

theorem sortedSet_of_pairwise_lt {texts : List String} (htexts : texts.Pairwise (· < ·)) :
    sortedSet texts = texts := by
  rw [sortedSet, eraseDups_of_nodup (htexts.imp ne_of_lt)]
  exact List.mergeSort_of_pairwise (htexts.imp fun hlt => decide_eq_true (le_of_lt hlt))

/-- A sorted set is given by its members. -/
theorem sortedSet_congr {texts others : List String} (hsame : ∀ text, text ∈ texts ↔ text ∈ others) :
    sortedSet texts = sortedSet others := by
  have hperm : (sortedSet texts).Perm (sortedSet others) := by
    rw [List.perm_ext_iff_of_nodup ((pairwise_lt_sortedSet texts).imp ne_of_lt)
      ((pairwise_lt_sortedSet others).imp ne_of_lt)]
    intro text
    rw [mem_sortedSet, mem_sortedSet, hsame]
  exact hperm.eq_of_pairwise (fun a b _ _ hab hba => absurd hba (lt_asymm hab))
    (pairwise_lt_sortedSet texts) (pairwise_lt_sortedSet others)

end Text

end MutationTesting
