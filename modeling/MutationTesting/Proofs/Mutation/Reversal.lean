import MutationTesting.Proofs.Mutation.Description
import MutationTesting.Proofs.Mutation.Effect

/-!
# Mutations that can be taken back

Some changes go both ways: operators, comparators, connectives, truth values and arguments are
exchanged, and numbers move up and down.  A strategy that is asked again about what it proposed, in the
same place, proposes what was there before.
-/

namespace MutationTesting

open MutationTesting.Tree (IsWellFormed shapes_eq_map)

/-- Whether a change of this sort can be taken back by another one of the same sort. -/
def Effect.isReversible : Effect → Bool
  | operatorSwap | comparatorChange | connectiveSwap | truthValueSwap | numberShift
  | argumentSwap => true
  | _ => false

/-- Whether the strategy of an effect proposes a change with this effect at a changed node, and the
change gives the node the shape of another one. -/
def Effect.TakesBack (e : Effect) (c : Context) (changed t : Tree) : Prop :=
  ∃ back, e.strategy.mutate c changed = .ok back ∧
    ∃ m ∈ back, m.HasEffect e ∧ m.replacement.shape = t.shape

theorem Change.takesBack {e : Effect} {c : Context} {changed replacement t : Tree}
    {back : List Mutation} {change : String} (hchange : Change e changed replacement)
    (hback : e.strategy.mutate c changed = .ok back)
    (hmem : e.strategy.propose c changed replacement change ∈ back)
    (hshape : replacement.shape = t.shape) : e.TakesBack c changed t :=
  ⟨back, hback, _, hmem, hchange.hasEffect_propose c change, hshape⟩

/-- Whether a literal is a text if it carries the mark that texts may have. -/
def Tree.MarksOnlyTexts (t : Tree) : Prop :=
  ∀ line value mark, t = .node .constant line [.literal value, mark] →
    mark = .absent ∨ ∃ text, value = .text text

/-- A node that is no text is a literal without a mark. -/
theorem Tree.IsWellFormed.unmarked {sort : NodeSort} {line : Nat} {value : Literal}
    {rest : List Tree} (ht : IsWellFormed sort (.node .constant line (.literal value :: rest)))
    (hmarks : (Tree.node .constant line (.literal value :: rest)).MarksOnlyTexts)
    (hvalue : ∀ text, value ≠ .text text) : rest = [.absent] := by
  obtain ⟨line', value', mark, hsame⟩ := ht.constant rfl
  cases hsame
  rcases hmarks line value mark rfl with rfl | ⟨text, rfl⟩
  · rfl
  · exact absurd rfl (hvalue text)

namespace Catalog

variable (c : Context)

/-- The inverse of an inverse is the operator itself. -/
theorem exists_arithmeticChange?_inverse {op : BinaryOperator} {change : ArithmeticChange}
    (hchange : arithmeticChange? op = some change) :
    ∃ back, arithmeticChange? change.inverse = some back ∧ back.inverse = op := by
  cases op <;> cases hchange <;> exact ⟨_, rfl, rfl⟩

theorem swap_mem_arithmetic {op : BinaryOperator} {change : ArithmeticChange}
    (hchange : arithmeticChange? op = some change) (line : Nat) (left right : Tree) (opLine : Nat)
    (opFields : List Tree) :
    Strategy.arithmetic.propose c
        (.node .binOp line [left, .node (.binary op) opLine opFields, right])
        (.node .binOp line [left, .node (.binary change.inverse) opLine opFields, right])
        (change.symbol ++ " to " ++ change.inverseSymbol) ∈
      arithmetic c (.node .binOp line [left, .node (.binary op) opLine opFields, right]) := by
  rw [arithmetic, hchange]
  exact List.mem_cons_self

theorem takesBack_operatorSwap {op : BinaryOperator} {change : ArithmeticChange}
    (hchange : arithmeticChange? op = some change) (line : Nat) (left right : Tree) (opLine : Nat)
    (opFields : List Tree) :
    Effect.operatorSwap.TakesBack c
      (.node .binOp line [left, .node (.binary change.inverse) opLine opFields, right])
      (.node .binOp line [left, .node (.binary op) opLine opFields, right]) := by
  obtain ⟨back, hback, rfl⟩ := exists_arithmeticChange?_inverse hchange
  have hswap := Change.operatorSwap hback line left right opLine opFields
  exact hswap.takesBack rfl (swap_mem_arithmetic c hback line left right opLine opFields) rfl

theorem mem_comparisonChanges_comm {op op' : Comparator} (hop : op' ∈ comparisonChanges op) :
    op ∈ comparisonChanges op' := by
  revert op'
  cases op <;> decide

/-- A chain can be changed at each of its operators. -/
theorem mem_comparatorVariants {op op' : Comparator} (hop : op' ∈ comparisonChanges op)
    (passed before after : List Tree) (line : Nat) (fields : List Tree) :
    (op, op', passed ++ before ++ comparatorNode op' :: after) ∈
      comparatorVariants passed (before ++ .node (.comparator op) line fields :: after) := by
  induction before generalizing passed with
  | nil =>
      rw [List.append_nil, List.nil_append, comparatorVariants.eq_def]
      exact List.mem_append_left _ (List.mem_map.mpr ⟨op', hop, rfl⟩)
  | cons first rest ih =>
      have hlater := ih (passed ++ [first])
      rw [List.append_assoc passed, List.singleton_append] at hlater
      rw [List.cons_append, comparatorVariants.eq_def]
      exact List.mem_append_right _ hlater

theorem takesBack_comparatorChange {op op' : Comparator} (hop : op' ∈ comparisonChanges op)
    (line : Nat) (left : Tree) (operands before after : List Tree) (opLine : Nat) :
    Effect.comparatorChange.TakesBack c
      (.node .compare line [left, .list (before ++ comparatorNode op' :: after), .list operands])
      (.node .compare line
        [left, .list (before ++ .node (.comparator op) opLine [] :: after), .list operands]) := by
  have hback := mem_comparisonChanges_comm hop
  have hvariant := mem_comparatorVariants hback [] before after 0 []
  refine (Change.comparatorChange hback line left (.list operands) before after 0 []).takesBack rfl
    (List.mem_map.mpr ⟨_, hvariant, rfl⟩) ?_
  simp only [comparatorNode, Tree.shape, Tree.shapes, shapes_eq_map, List.map_append, List.map_cons]

theorem takesBack_connectiveSwap {op op' : Connective} (hop : op' ≠ op) (line : Nat) (values : Tree)
    (opLine : Nat) (opFields : List Tree) :
    Effect.connectiveSwap.TakesBack c
      (.node .boolOp line [.node (.connective op') opLine opFields, values])
      (.node .boolOp line [.node (.connective op) opLine opFields, values]) := by
  have hchange := Change.connectiveSwap hop.symm line values opLine opFields
  cases op <;> cases op' <;> first
    | exact absurd rfl hop
    | exact hchange.takesBack rfl (List.mem_singleton_self _) rfl

theorem takesBack_truthValueSwap (line : Nat) (b : Bool) :
    Effect.truthValueSwap.TakesBack c (constantAt line (.bool !b))
      (.node .constant line [.literal (.bool b), .absent]) := by
  have hchange := Change.truthValueSwap line (!b) [.absent]
  cases b <;> exact hchange.takesBack rfl (List.mem_singleton_self _) rfl

theorem isInFormattedString_of_int_mem {line : Nat} {n : Int} {rest : List Tree}
    {found : List Mutation} {m : Mutation}
    (hfound : literal c (.node .constant line (.literal (.int n) :: rest)) = .ok found)
    (hm : m ∈ found) : isInFormattedString c = false := by
  cases hinside : isInFormattedString c with
  | false => rfl
  | true =>
      rw [literal, if_pos hinside] at hfound
      cases hfound
      cases hm

/-- A number of fewer digits than the most can move twice. -/
theorem takesBack_numberShift (houtside : isInFormattedString c = false) {n n' : Int}
    (hn : n' = n + 1 ∨ n' = n - 1) (hshort : n.natAbs < 10 ^ (Decimal.maxDigits - 1)) (line : Nat) :
    Effect.numberShift.TakesBack c (constantAt line (.int n'))
      (.node .constant line [.literal (.int n), .absent]) := by
  have hpower : 10 * 10 ^ (Decimal.maxDigits - 1) = 10 ^ Decimal.maxDigits :=
    mul_pow_sub_one (by decide) 10
  have hfits : n'.natAbs + 1 < 10 ^ Decimal.maxDigits := by
    have hpos : 0 < 10 ^ (Decimal.maxDigits - 1) := Nat.pow_pos (by decide)
    rw [← hpower]
    omega
  have hback : n = n' + 1 ∨ n = n' - 1 := by omega
  have hchange := Change.numberShift hback line [.absent]
  obtain ⟨found, hfound⟩ := (exists_literal_of_int houtside).mpr hfits
  have hmoves := hfound
  rw [literal, if_neg (by rw [houtside]; exact Bool.false_ne_true)] at hmoves
  obtain ⟨up, down, rfl⟩ := exists_eq_of_shiftedNumbers hmoves
  rcases hback with rfl | rfl
  · exact hchange.takesBack hfound List.mem_cons_self rfl
  · exact hchange.takesBack hfound (List.mem_cons_of_mem _ List.mem_cons_self) rfl

/-- What is called by a mutated call has a text, which does not name a special form, and the call is no
decorator. -/
theorem exists_callee_of_mem_functionCall {line : Nat} {func first second : Tree}
    {rest keywords : List Tree} {found : List Mutation} {m : Mutation}
    (hfound : functionCall c
      (.node .call line [func, .list (first :: second :: rest), .list keywords]) = .ok found)
    (hm : m ∈ found) :
    ∃ callee, Source.unparse? func = some callee ∧
      specialForms.contains (String.ofList (lastName callee)) = false ∧ isDecorator c = false := by
  rw [functionCall, if_neg (by simp)] at hfound
  split at hfound
  · cases hfound
  next callee hcallee =>
      refine ⟨callee, hcallee, ?_⟩
      dsimp only at hfound
      split at hfound
      · cases hfound
        cases hm
      next hform =>
          split at hfound
          · cases hfound
            cases hm
          next hplace => exact ⟨Bool.not_eq_true _ ▸ hform, Bool.not_eq_true _ ▸ hplace⟩

/-- Such a call gets its first two arguments exchanged if it has two. -/
theorem exists_swap_mem_functionCall {line : Nat} {func : Tree} {callee : List Char}
    (hcallee : Source.unparse? func = some callee)
    (hform : specialForms.contains (String.ofList (lastName callee)) = false)
    (hplace : isDecorator c = false) (first second : Tree) (rest keywords : List Tree) :
    ∃ back change,
      functionCall c (.node .call line [func, .list (first :: second :: rest), .list keywords]) =
          .ok back ∧
        Strategy.functionCall.propose c
          (.node .call line [func, .list (first :: second :: rest), .list keywords])
          (.node .call line [func, .list (second :: first :: rest), .list keywords]) change ∈ back := by
  rw [functionCall, if_neg (by simp), hcallee]
  dsimp only
  rw [hform, hplace, swappedArguments?]
  exact ⟨_, _, rfl, List.mem_cons_of_mem _ List.mem_cons_self⟩

/-- Whether a call is mutated depends on what is called and on whether there are arguments, not on
their order. -/
theorem takesBack_argumentSwap {line : Nat} {func first second keywords : Tree} {rest : List Tree}
    {found : List Mutation} {m : Mutation}
    (hfound : functionCall c
      (.node .call line [func, .list (first :: second :: rest), keywords]) = .ok found)
    (hm : m ∈ found) :
    Effect.argumentSwap.TakesBack c
      (.node .call line [func, .list (second :: first :: rest), keywords])
      (.node .call line [func, .list (first :: second :: rest), keywords]) := by
  have hchange := Change.argumentSwap line func second first keywords rest
  cases keywords with
  | list items =>
      obtain ⟨callee, hcallee, hform, hplace⟩ := exists_callee_of_mem_functionCall c hfound hm
      obtain ⟨back, change, hback, hmem⟩ :=
        exists_swap_mem_functionCall c hcallee hform hplace second first rest items
      exact hchange.takesBack hback hmem rfl
  | _ =>
      cases hfound
      cases hm

end Catalog

/-- A strategy that is asked about a swapped operator, comparator, connective, truth value or
argument, or about a number moved by one, in the place of the original, proposes the original again. -/
theorem swaps_are_reversible {sort : NodeSort} {s : Strategy} {c : Context} {t : Tree}
    {found : List Mutation} {m : Mutation} {e : Effect} (ht : IsWellFormed sort t)
    (hmarks : t.MarksOnlyTexts)
    (hshort : ∀ n ∈ t.wholeNumber?, n.natAbs < 10 ^ (Decimal.maxDigits - 1))
    (hfound : s.mutate c t = .ok found) (hm : m ∈ found) (heffect : m.HasEffect e)
    (hreversible : e.isReversible = true) :
    ∃ back, s.mutate c m.replacement = .ok back ∧
      ∃ m' ∈ back, m'.HasEffect e ∧ m'.replacement.shape = t.shape := by
  have hproposes := Strategy.mutate_proposes hfound m hm
  obtain rfl : s = e.strategy :=
    Strategy.name_injective (hproposes.strategy_eq.symm.trans heffect.strategy_eq)
  obtain ⟨rfl, -⟩ := hproposes.names
  obtain ⟨-, hchange⟩ := heffect
  change e.TakesBack c m.replacement m.original
  generalize m.original = original at *
  generalize m.replacement = replacement at *
  cases hchange with
  | operatorSwap hop => exact Catalog.takesBack_operatorSwap c hop ..
  | comparatorChange hop line left operands before after opLine opFields =>
      obtain rfl : opFields = [] :=
        ht.fields_operator rfl _ (List.mem_append_right _ List.mem_cons_self)
      obtain ⟨line, left, operators, operands, hsame, -⟩ := ht.compare rfl
      cases hsame
      exact Catalog.takesBack_comparatorChange c hop ..
  | connectiveSwap hop => exact Catalog.takesBack_connectiveSwap c hop ..
  | truthValueSwap line b rest =>
      obtain rfl := ht.unmarked hmarks (by simp)
      exact Catalog.takesBack_truthValueSwap c line b
  | @numberShift n n' hn line rest =>
      obtain rfl := ht.unmarked hmarks (by simp)
      have houtside := Catalog.isInFormattedString_of_int_mem c hfound hm
      have hsmall := hshort n rfl
      exact Catalog.takesBack_numberShift c houtside hn hsmall line
  | argumentSwap => exact Catalog.takesBack_argumentSwap c hfound hm
  | _ => cases hreversible

/-- In the chain `1 < 2 <= 3` the second operator becomes `>=`, and then `<=` again. -/
theorem swap_in_chain_is_reversible :
    let chain (second : Comparator) : Tree := .node .compare 1
      [Catalog.constantAt 1 (.int 1),
        .list [Catalog.comparatorNode .lt, Catalog.comparatorNode second],
        .list [Catalog.constantAt 1 (.int 2), Catalog.constantAt 1 (.int 3)]]
    ∃ back, Strategy.comparison.mutate ⟨"chain.py", []⟩ (chain .gtE) = .ok back ∧
      ∃ m ∈ back, m.HasEffect .comparatorChange ∧ m.replacement.shape = (chain .ltE).shape := by
  intro chain
  have hchange : Change .comparatorChange (chain .ltE) (chain .gtE) :=
    .comparatorChange (show .gtE ∈ Catalog.comparisonChanges .ltE by decide) 1 _ _
      [Catalog.comparatorNode .lt] [] 0 []
  have hwell : IsWellFormed .expression (chain .ltE) := by decide
  have hmarks : (chain .ltE).MarksOnlyTexts := by rintro _ _ _ ⟨⟩
  have hshort : ∀ n ∈ (chain .ltE).wholeNumber?, n.natAbs < 10 ^ (Decimal.maxDigits - 1) := by
    rintro _ ⟨⟩
  have hmem : Strategy.comparison.propose ⟨"chain.py", []⟩ (chain .ltE) (chain .gtE) "<= to >=" ∈
      Catalog.comparison ⟨"chain.py", []⟩ (chain .ltE) := by decide
  exact swaps_are_reversible hwell hmarks hshort rfl hmem (hchange.hasEffect_propose _ _) rfl

end MutationTesting
