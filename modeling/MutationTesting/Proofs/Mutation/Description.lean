import MutationTesting.Proofs.Mutation.Generation
import MutationTesting.Proofs.Number.Digits
import MutationTesting.Proofs.Source.Expressions

/-!
# Which mutations can be described

A walk writes whole numbers and called expressions into its descriptions.  It fails just when one of
these has no text: the number has too many digits, or the called expression holds such a number or a
formatted string that cannot be printed.
-/

namespace MutationTesting

open MutationTesting.Tree (IsWellFormed)

/-- The expression that a call with arguments is made of. -/
def Tree.callee? : Tree → Option Tree
  | .node .call _ [func, .list args, .list keywords] =>
    if args.isEmpty && keywords.isEmpty then none else some func
  | _ => none

/-- Whether a visit is below a formatted string. -/
def Visit.isInFormattedString (v : Visit) : Bool := v.above.any fun a => a.node.isFormatted

theorem Tree.exists_of_callee? {t func : Tree} (hcallee : t.callee? = some func) :
    ∃ line args keywords, t = .node .call line [func, .list args, .list keywords] ∧
      (args.isEmpty && keywords.isEmpty) = false := by
  unfold callee? at hcallee
  split at hcallee
  · rw [Option.ite_none_left_eq_some, Bool.not_eq_true] at hcallee
    obtain ⟨hgiven, hfunc⟩ := hcallee
    cases hfunc
    exact ⟨_, _, _, rfl, hgiven⟩
  · cases hcallee

namespace Catalog

theorem exists_wholeText_iff {n : Int} :
    (∃ text, wholeText n = .ok text) ↔ n.natAbs < 10 ^ Decimal.maxDigits := by
  rw [wholeText, ← Decimal.fits_iff]
  split
  next hshort => exact iff_of_true ⟨_, rfl⟩ hshort
  next hlong => exact iff_of_false (fun htext => nomatch htext) hlong

theorem exists_shiftedNumber_iff {c : Context} {t : Tree} {line : Nat} {n n' : Int}
    {direction : String} : (∃ m, shiftedNumber c t line n n' direction = .ok m) ↔
      n.natAbs < 10 ^ Decimal.maxDigits ∧ n'.natAbs < 10 ^ Decimal.maxDigits := by
  rw [← exists_wholeText_iff, ← exists_wholeText_iff]
  constructor
  · rintro ⟨m, hm⟩
    obtain ⟨before, hbefore, hm⟩ := bind_eq_ok_iff.mp hm
    obtain ⟨after, hafter, -⟩ := bind_eq_ok_iff.mp hm
    exact ⟨⟨before, hbefore⟩, after, hafter⟩
  · rintro ⟨⟨before, hbefore⟩, after, hafter⟩
    exact ⟨_, bind_eq_ok_iff.mpr ⟨before, hbefore, bind_eq_ok_iff.mpr ⟨after, hafter, rfl⟩⟩⟩

/-- A number and both its neighbours are short just when one more than its size is. -/
theorem neighbours_lt_iff {n : Int} {bound : Nat} :
    ((n.natAbs < bound ∧ (n + 1).natAbs < bound) ∧ n.natAbs < bound ∧ (n - 1).natAbs < bound) ↔
      n.natAbs + 1 < bound := by
  omega

theorem exists_literal_of_int {c : Context} (hinside : isInFormattedString c = false) {line : Nat}
    {n : Int} {rest : List Tree} :
    (∃ found, literal c (.node .constant line (.literal (.int n) :: rest)) = .ok found) ↔
      n.natAbs + 1 < 10 ^ Decimal.maxDigits := by
  have hshifted : ∀ (n' : Int) (direction : String),
      (∃ m, shiftedNumber c (.node .constant line (.literal (.int n) :: rest)) line n n' direction =
        .ok m) ↔ n.natAbs < 10 ^ Decimal.maxDigits ∧ n'.natAbs < 10 ^ Decimal.maxDigits :=
    fun _ _ => exists_shiftedNumber_iff
  rw [literal, if_neg (by rw [hinside]; exact Bool.false_ne_true), exists_bind_eq_ok_iff,
    ← neighbours_lt_iff, ← hshifted (n + 1) "increment", ← hshifted (n - 1) "decrement"]
  constructor
  · rintro ⟨up, hup, hrest⟩
    obtain ⟨down, hdown, -⟩ := exists_bind_eq_ok_iff.mp hrest
    exact ⟨⟨up, hup⟩, down, hdown⟩
  · rintro ⟨⟨up, hup⟩, down, hdown⟩
    exact ⟨up, hup, exists_bind_eq_ok_iff.mpr ⟨down, hdown, _, rfl⟩⟩

theorem functionCall_of_callee? {c : Context} {t : Tree} (ht : t.callee? = none) :
    functionCall c t = .ok [] := by
  unfold functionCall
  split
  · rw [Tree.callee?, ite_eq_left_iff] at ht
    split
    next => rfl
    next hgiven => cases ht hgiven
  · rfl

end Catalog

theorem Tree.IsWellFormed.callee {t func : Tree} {sort : NodeSort} (ht : IsWellFormed sort t)
    (hcallee : t.callee? = some func) : IsWellFormed .expression func := by
  obtain ⟨line, args, keywords, rfl, -⟩ := Tree.exists_of_callee? hcallee
  have hfields := (Tree.isWellFormed_node_iff.mp ht).2
  exact (Tree.fieldsConform_iff.mp hfields).2 0 .expression func rfl rfl

end MutationTesting
