import MutationTesting.Proofs.Mutation.Difference
import MutationTesting.Proofs.Optimizer.Boundary
import MutationTesting.Proofs.Source.Expressions

/-!
# Which comparison mutations are boundary mutations

A mutation of a comparison chain puts another operator in one place of the chain.  The optimizer is
not told which place that is; it looks for the first difference, and finds this place.  All changes
of comparisons but those between `<` and `>` have to do with a boundary.
-/

namespace MutationTesting.Optimizer

open MutationTesting.Catalog
open MutationTesting.Tree (IsWellFormed)

/-- Whether an operator and its replacement differ only in their direction. -/
def IsReversal (op op' : Comparator) : Prop := op = .gt ∧ op' = .lt ∨ op = .lt ∧ op' = .gt

/-- Whether a mutation of a comparison chain puts another operator in one of its places, and keeps
all operands and all other operators. -/
structure Exchanges (m : Mutation) (place : Nat) (op op' : Comparator) : Prop where
  different : op ≠ op'
  operator : ∃ before, comparators? m.original = some before ∧ before[place]? = some op ∧
    comparators? m.replacement = some (before.set place op')
  operands : ∃ line left operators operands,
    m.original = .node .compare line [left, .list operators, operands] ∧
      m.replacement =
        .node .compare line [left, .list (operators.set place (comparatorNode op')), operands]

section Comparators

variable {operators : List Tree} {before : List Comparator} {line : Nat} {left operands : Tree}

/-- The comparator that a node writes. -/
def comparator? : Tree → Option Comparator
  | .node (.comparator c) _ _ => some c
  | _ => none

theorem mapM_eq_some_iff {α β : Type} {f : α → Option β} {items : List α} {results : List β} :
    items.mapM f = some results ↔ items.map f = results.map some := by
  induction items generalizing results with
  | nil => cases results <;> simp
  | cons first rest ih =>
      cases results <;> simp [List.mapM_cons, Option.bind_eq_some_iff, ih]

/-- A chain has the comparators of its operators, one by one. -/
theorem comparators?_eq_some_iff :
    comparators? (.node .compare line [left, .list operators, operands]) = some before ↔
      operators.map comparator? = before.map some := mapM_eq_some_iff

theorem exists_comparators?
    (hoperators : ∀ operator ∈ operators, IsWellFormed .comparator operator) :
    ∃ before,
      comparators? (.node .compare line [left, .list operators, operands]) = some before := by
  refine Source.exists_mapM fun operator hoperator => ?_
  obtain ⟨op, opLine, fields, rfl⟩ := (hoperators operator hoperator).comparator
  exact ⟨op, rfl⟩

theorem comparators?_set
    (hbefore : comparators? (.node .compare line [left, .list operators, operands]) = some before)
    (place : Nat) (op' : Comparator) :
    comparators? (.node .compare line
      [left, .list (operators.set place (comparatorNode op')), operands]) =
      some (before.set place op') := by
  rw [comparators?_eq_some_iff] at hbefore ⊢
  rw [List.map_set, hbefore, List.map_set]
  rfl

theorem getElem?_of_comparators?
    (hbefore : comparators? (.node .compare line [left, .list operators, operands]) = some before)
    {place opLine : Nat} {op : Comparator} {fields : List Tree}
    (hplace : operators[place]? = some (.node (.comparator op) opLine fields)) :
    before[place]? = some op := by
  have hsame := congrArg (·[place]?) (comparators?_eq_some_iff.mp hbefore)
  simp only [List.getElem?_map, hplace, Option.map_some, comparator?] at hsame
  obtain ⟨c, hc, hop⟩ := Option.map_eq_some_iff.mp hsame.symm
  rw [hc, Option.some.inj hop]

/-- A variant of a chain is another operator in one of its places. -/
theorem exists_of_mem_comparatorVariants {passed : List Tree}
    {variant : Comparator × Comparator × List Tree}
    (hvariant : variant ∈ comparatorVariants passed operators) :
    ∃ place op op' line fields, operators[place]? = some (.node (.comparator op) line fields) ∧
      op' ∈ comparisonChanges op ∧
      variant = (op, op', passed ++ operators.set place (comparatorNode op')) := by
  induction operators generalizing passed with
  | nil => cases hvariant
  | cons first rest ih =>
      unfold comparatorVariants at hvariant
      rcases List.mem_append.mp hvariant with hhere | hlater
      · split at hhere
        next op line fields =>
            obtain ⟨op', hop, rfl⟩ := List.mem_map.mp hhere
            exact ⟨0, op, op', line, fields, rfl, hop, rfl⟩
        next => cases hhere
      · obtain ⟨place, op, op', line, fields, hplace, hop, rfl⟩ := ih hlater
        refine ⟨place + 1, op, op', line, fields, hplace, hop, ?_⟩
        rw [List.append_assoc, List.singleton_append, List.set_cons_succ]

/-- The first difference between a chain and itself with another operator in one place is at that
place. -/
theorem changedComparators?_set {place : Nat} {op op' : Comparator} (hop : before[place]? = some op)
    (hne : op ≠ op') : changedComparators? before (before.set place op') = some (op, op') := by
  induction before generalizing place with
  | nil => cases hop
  | cons first rest ih =>
      cases place with
      | zero =>
          cases hop
          rw [List.set_cons_zero, changedComparators?, if_neg hne]
      | succ place =>
          rw [List.set_cons_succ, changedComparators?, if_pos rfl]
          exact ih hop

end Comparators

theorem isBoundaryComparator_or_eq_false_iff {op op' : Comparator}
    (hop : op' ∈ comparisonChanges op) :
    (isBoundaryComparator op || isBoundaryComparator op') = false ↔ IsReversal op op' := by
  revert op'
  cases op <;> simp [comparisonChanges, isBoundaryComparator, IsReversal]

theorem Exchanges.isBoundary_eq {m : Mutation} {place : Nat} {op op' : Comparator}
    (hm : Exchanges m place op op') (hstrategy : m.strategy = Strategy.comparison.name) :
    isBoundary m = (isBoundaryComparator op || isBoundaryComparator op') := by
  obtain ⟨before, hbefore, hop, hafter⟩ := hm.operator
  rw [isBoundary, hstrategy, hbefore, hafter]
  simp only [changedComparators?_set hop hm.different, beq_self_eq_true, Bool.true_and]

/-- A proposal for a comparison chain changes one of its operators, and says from what to what. -/
theorem exists_exchanges_of_mem_comparison {c : Context} {t : Tree} {m : Mutation}
    {sort : NodeSort} (ht : IsWellFormed sort t) (hm : m ∈ comparison c t) :
    ∃ place op op', Exchanges m place op op' ∧ op' ∈ comparisonChanges op ∧
      m.description = "Comparison: " ++ comparatorSymbol op ++ " to " ++ comparatorSymbol op' := by
  unfold comparison at hm
  split at hm
  next line left operators operands =>
      obtain ⟨_, _, _, _, heq, hoperators⟩ := ht.compare rfl
      cases heq
      obtain ⟨before, hbefore⟩ := exists_comparators? hoperators
      obtain ⟨variant, hvariant, rfl⟩ := List.mem_map.mp hm
      obtain ⟨place, op, op', opLine, fields, hplace, hop, rfl⟩ :=
        exists_of_mem_comparatorVariants hvariant
      have hexchanges : Exchanges (Strategy.comparison.propose c
          (.node .compare line [left, .list operators, .list operands])
          (.node .compare line
            [left, .list (operators.set place (comparatorNode op')), .list operands])
          (comparatorSymbol op ++ " to " ++ comparatorSymbol op')) place op op' :=
        ⟨(ne_of_mem_comparisonChanges hop).symm,
          ⟨before, hbefore, getElem?_of_comparators? hbefore hplace, comparators?_set hbefore _ _⟩,
          ⟨line, left, operators, .list operands, rfl, rfl⟩⟩
      have hname : "Comparison: " = Strategy.comparison.name ++ ": " := by decide
      refine ⟨place, op, op', hexchanges, hop, ?_⟩
      change Strategy.comparison.name ++ ": " ++
        (comparatorSymbol op ++ " to " ++ comparatorSymbol op') = _
      rw [hname, ← String.append_assoc, ← String.append_assoc]
  next => cases hm

theorem mem_optimize_of_isBoundary {o : Options} {mutations : List Mutation}
    (hkeeps : o.keepsBoundary = true) {candidate : Candidate}
    (hcandidate : candidate ∈ score mutations) (hboundary : isBoundary candidate.mutation = true) :
    candidate ∈ optimize o mutations := by
  rw [optimize]
  split
  · rw [select_of_keepsBoundary hkeeps]
    exact List.mem_append_left _ (List.mem_filter.mpr ⟨hcandidate, hboundary⟩)
  · exact hcandidate

/-- A mutation of a comparison chain changes one operator, the one that its description names.  It
is a boundary mutation unless it reverses `<` or `>`, and then it is never dropped where boundary
mutations are kept. -/
theorem comparison_mutation_kept_unless_reversal {c : Context} {t : Tree} {m : Mutation}
    {sort : NodeSort} (ht : IsWellFormed sort t) (hm : m ∈ comparison c t) :
    m.original = t ∧ ∃ place op op', Exchanges m place op op' ∧
      m.description = "Comparison: " ++ comparatorSymbol op ++ " to " ++ comparatorSymbol op' ∧
      (isBoundary m = false ↔ IsReversal op op') ∧
      ∀ (o : Options) (mutations : List Mutation) (index : Nat), o.keepsBoundary = true →
        mutations[index]? = some m → ¬ IsReversal op op' →
          ∃ candidate ∈ optimize o mutations, candidate.place = index ∧ candidate.mutation = m := by
  obtain ⟨place, op, op', hexchanges, hop, hdescription⟩ :=
    exists_exchanges_of_mem_comparison ht hm
  have hproposes := comparison_proposes c t m hm
  have hboundary : isBoundary m = false ↔ IsReversal op op' := by
    rw [hexchanges.isBoundary_eq hproposes.strategy_eq, isBoundaryComparator_or_eq_false_iff hop]
  refine ⟨hproposes.names.1, place, op, op', hexchanges, hdescription, hboundary, ?_⟩
  intro o mutations index hkeeps hindex hkept
  refine ⟨⟨index, m, impact m⟩, mem_optimize_of_isBoundary hkeeps ?_ ?_, rfl, rfl⟩
  · exact List.mem_map.mpr ⟨(m, index), List.mk_mem_zipIdx_iff_getElem?.mpr hindex, rfl⟩
  · exact Bool.eq_true_of_not_eq_false (mt hboundary.mp hkept)

/-- The chain `a in b >= c > d`. -/
def membershipChain : Tree :=
  let name (id : String) : Tree := .node .name 1 [.text id, .node (.usage .load) 0 []]
  .node .compare 1 [name "a",
    .list [comparatorNode .isIn, comparatorNode .gtE, comparatorNode .gt],
    .list [name "b", name "c", name "d"]]

/-- The second of the four mutations of the chain makes its middle operator strict.  It is kept by
options that drop all others than boundary mutations. -/
theorem strict_middle_comparison_kept :
    ∃ m, IsWellFormed .expression membershipChain ∧ m ∈ comparison ⟨"m.py", []⟩ membershipChain ∧
      m.description = "Comparison: >= to >" ∧
      ∃ candidate ∈ optimize ⟨true, 100, 0, true⟩ (comparison ⟨"m.py", []⟩ membershipChain),
        candidate.place = 1 ∧ candidate.mutation = m := by
  have ht : IsWellFormed .expression membershipChain := by decide +kernel
  have hsecond : ∃ m, (comparison ⟨"m.py", []⟩ membershipChain)[1]? = some m ∧
      m.description = "Comparison: >= to >" ∧ isBoundary m = true :=
    ⟨_, rfl, rfl, by decide +kernel⟩
  obtain ⟨m, hindex, hdescription, hboundary⟩ := hsecond
  have hm : m ∈ comparison ⟨"m.py", []⟩ membershipChain := List.mem_of_getElem? hindex
  obtain ⟨-, place, op, op', -, -, hreversal, hkept⟩ :=
    comparison_mutation_kept_unless_reversal ht hm
  have hdirected : ¬ IsReversal op op' := fun hreversed => by
    rw [hreversal.mpr hreversed] at hboundary
    cases hboundary
  exact ⟨m, ht, hm, hdescription, hkept _ _ 1 rfl hindex hdirected⟩

end MutationTesting.Optimizer
