import Mathlib.Tactic.Ring
import MutationTesting.Mutation.Walk
import MutationTesting.Optimizer.Pipeline
import MutationTesting.Proofs.Optimizer.Meaning
import MutationTesting.Source.Parse

/-!
# Mutations taken for equivalent

A mutation is taken for equivalent by its replacement alone.  For arithmetic that is right: what is
flagged has the value of its original.  A chain of `and` or `or` is flagged where its first operand
lets it go on; but in the original chain, of the other operator, the same operand decides.  So both
have one value only if all operands are constants that leave the chain open up to its end.
-/

namespace MutationTesting.Optimizer

open MutationTesting.Catalog (arithmetic arithmeticChange? boolean)

theorem constant?_of_isConstant {value : Literal} {t : Tree} (ht : isConstant value t = true) :
    t.constant? = some value := by
  unfold isConstant at ht
  split at ht
  next v _ =>
      rw [decide_eq_true_eq] at ht
      exact congrArg some ht
  next => cases ht

section Arithmetic

/-- What is flagged among the mutations of an operation is the exchange of its operator; the other
replacement is a literal. -/
theorem exists_inverse_of_isEquivalent {c : Context} {t : Tree} {m : Mutation}
    (hm : m ∈ arithmetic c t) (hequivalent : isEquivalent m = true) :
    ∃ line left op opLine opFields right change, arithmeticChange? op = some change ∧
      m.original = .node .binOp line [left, .node (.binary op) opLine opFields, right] ∧
      m.replacement =
        .node .binOp line [left, .node (.binary change.inverse) opLine opFields, right] ∧
      isNeutralOperation m.replacement = true := by
  unfold arithmetic at hm
  split at hm
  next line left op opLine opFields right =>
      split at hm
      next => cases hm
      next change hchange =>
          rw [List.mem_cons, List.mem_singleton] at hm
          obtain rfl | rfl := hm
          · refine ⟨line, left, op, opLine, opFields, right, change, hchange, rfl, rfl, ?_⟩
            simpa [isEquivalent, Strategy.propose, Strategy.name] using hequivalent
          · cases hequivalent
  next => cases hm

/-- Where the right operand is neutral, an operation and its inverse have the same value. -/
theorem calculate?_eq_of_isNeutralOperation {op : BinaryOperator} {change : Catalog.ArithmeticChange}
    (hchange : arithmeticChange? op = some change) {line opLine : Nat} {opFields : List Tree}
    {left right : Tree}
    (hneutral : isNeutralOperation
      (.node .binOp line [left, .node (.binary change.inverse) opLine opFields, right]) = true) :
    ∃ n : Int, right.constant? = some (.int n) ∧
      ∀ x, op.calculate? x n = change.inverse.calculate? x n := by
  cases op <;> cases hchange
  case add | sub =>
      exact ⟨0, constant?_of_isConstant hneutral, fun x => congrArg some (by ring)⟩
  case mult | div =>
      refine ⟨1, constant?_of_isConstant hneutral, fun x => ?_⟩
      rw [BinaryOperator.calculate?, BinaryOperator.calculate?, if_neg (by norm_num)]
      exact congrArg some (by ring)

theorem number?_of_isEquivalent {c : Context} {t : Tree} {m : Mutation} (hm : m ∈ arithmetic c t)
    (hequivalent : isEquivalent m = true) (assigned : Tree → ℚ) :
    m.original.number? assigned = m.replacement.number? assigned := by
  obtain ⟨line, left, op, opLine, opFields, right, change, hchange, horiginal, hreplacement,
    hneutral⟩ := exists_inverse_of_isEquivalent hm hequivalent
  rw [hreplacement] at hneutral
  obtain ⟨n, hright, hvalue⟩ := calculate?_eq_of_isNeutralOperation hchange hneutral
  have hnumber : right.operandNumber? assigned = some (n : ℚ) := by
    rw [Tree.operandNumber?, hright]
    rfl
  rw [horiginal, hreplacement, Tree.number?, Tree.number?, hnumber]
  cases left.operandNumber? assigned with
  | none => rfl
  | some x => exact hvalue x

end Arithmetic

section Boolean

/-- Whether an expression is a chain of constants none of which would decide a chain of the other
operator, with the truth value that decides its own at the end. -/
def IsConstantChain (t : Tree) : Prop :=
  ∃ line opLine opFields op first rest,
    t = .node .boolOp line [.node (.connective op) opLine opFields, .list (first :: rest)] ∧
      (∀ operand ∈ first :: rest, ∃ value,
        operand.constant? = some value ∧ value.truth = op.deciding) ∧
      (first :: rest).getLast?.bind Tree.constant? = some (.bool op.deciding)

theorem exists_chain_of_isNeutralConnection {t : Tree} (ht : isNeutralConnection t = true) :
    ∃ line opLine opFields op first rest,
      t = .node .boolOp line [.node (.connective op) opLine opFields, .list (first :: rest)] ∧
        first.constant? = some (.bool !op.deciding) := by
  unfold isNeutralConnection at ht
  split at ht
  next line op opLine opFields first rest =>
      refine ⟨line, opLine, opFields, op, first, rest, rfl, ?_⟩
      cases op with
      | and => exact constant?_of_isConstant ht
      | or => exact constant?_of_isConstant ht
  next => cases ht

/-- What is flagged among the mutations of a truth value is the exchange of a chain's operator, or a
chain that has lost its negation. -/
theorem original_of_isEquivalent {c : Context} {t : Tree} {m : Mutation}
    (hm : m ∈ boolean c t) (hequivalent : isEquivalent m = true) :
    isNeutralConnection m.replacement = true ∧
      ((∃ line op opLine opFields operands,
          m.replacement =
            .node .boolOp line [.node (.connective op) opLine opFields, operands] ∧
          m.original =
            .node .boolOp line [.node (.connective op.dual) opLine opFields, operands]) ∨
        ∃ line opLine opFields, m.original =
          .node .unaryOp line [.node (.unary .not) opLine opFields, m.replacement]) := by
  have hneutral : m.strategy = Strategy.boolean.name → isNeutralConnection m.replacement = true := by
    intro hstrategy
    simpa [isEquivalent, hstrategy, Strategy.name] using hequivalent
  unfold boolean at hm
  split at hm
  case h_6 => cases hm
  all_goals
    rw [List.mem_singleton] at hm
    subst hm
    refine ⟨hneutral rfl, ?_⟩
  case h_1 line opLine opFields operands =>
      exact .inl ⟨line, .or, opLine, opFields, operands, rfl, rfl⟩
  case h_2 line opLine opFields operands =>
      exact .inl ⟨line, .and, opLine, opFields, operands, rfl, rfl⟩
  case h_3 => cases hneutral rfl
  case h_4 => cases hneutral rfl
  case h_5 line opLine opFields operand => exact .inr ⟨line, opLine, opFields, rfl⟩

/-- If an operand is not a constant, its value may be an object that decides the chain. -/
theorem forall_chain_eq_bool_iff {op : Connective} {first : Tree} {rest : List Tree} :
    (∀ assigned, op.chain (first.operandValue assigned) (rest.map (Tree.operandValue assigned)) =
        .literal (.bool !op.deciding)) ↔
      (∀ operand ∈ first :: rest, ∃ value,
        operand.constant? = some value ∧ value.truth = !op.deciding) ∧
      (first :: rest).getLast?.bind Tree.constant? = some (.bool !op.deciding) := by
  simp only [Connective.chain_eq_bool_iff, ← List.map_cons, List.forall_mem_map, List.getLast?_map]
  constructor
  · intro hopen
    obtain ⟨htruth, hlast⟩ := hopen fun _ => .object 0 op.deciding
    have hconstant : ∀ operand ∈ first :: rest, ∃ value,
        operand.constant? = some value ∧ value.truth = !op.deciding := by
      intro operand hoperand
      have htruth := htruth operand hoperand
      cases hvalue : operand.constant? with
      | none =>
          rw [Tree.operandValue_of_not_constant hvalue] at htruth
          exact (Bool.not_ne_self op.deciding htruth.symm).elim
      | some value =>
          rw [Tree.operandValue_of_constant? hvalue] at htruth
          exact ⟨value, rfl, htruth⟩
    refine ⟨hconstant, ?_⟩
    obtain ⟨operand, hoperand, hbool⟩ := Option.map_eq_some_iff.mp hlast
    obtain ⟨value, hvalue, -⟩ := hconstant operand (List.mem_of_getLast? hoperand)
    rw [Tree.operandValue_of_constant? hvalue] at hbool
    cases hbool
    rw [hoperand]
    exact hvalue
  · rintro ⟨hconstant, hlast⟩ assigned
    constructor
    · intro operand hoperand
      obtain ⟨value, hvalue, htruth⟩ := hconstant operand hoperand
      rw [Tree.operandValue_of_constant? hvalue]
      exact htruth
    · obtain ⟨operand, hoperand, hbool⟩ := Option.bind_eq_some_iff.mp hlast
      rw [hoperand, Option.map_some, Tree.operandValue_of_constant? hbool]

/-- The first operand decides the original chain, so only its truth value can be the value of both. -/
theorem value_eq_iff_of_exchange {op : Connective} {line opLine : Nat} {opFields rest : List Tree}
    {first : Tree} (hfirst : first.constant? = some (.bool !op.deciding)) :
    (∀ assigned,
      (Tree.node .boolOp line
        [.node (.connective op.dual) opLine opFields, .list (first :: rest)]).value assigned =
      (Tree.node .boolOp line
        [.node (.connective op) opLine opFields, .list (first :: rest)]).value assigned) ↔
      IsConstantChain (.node .boolOp line
        [.node (.connective op.dual) opLine opFields, .list (first :: rest)]) := by
  have horiginal : ∀ assigned, op.dual.chain (first.operandValue assigned)
      (rest.map (Tree.operandValue assigned)) = .literal (.bool !op.deciding) := by
    intro assigned
    have hdecides : (OperandValue.literal (.bool !op.deciding)).truth = op.dual.deciding :=
      op.deciding_dual.symm
    rw [Tree.operandValue_of_constant? hfirst, Connective.chain_of_decides hdecides]
  simp only [Tree.value_chain, horiginal, @eq_comm _ (OperandValue.literal (.bool !op.deciding))]
  rw [forall_chain_eq_bool_iff, ← op.deciding_dual]
  constructor
  · rintro ⟨hconstant, hlast⟩
    exact ⟨line, opLine, opFields, op.dual, first, rest, rfl, hconstant, hlast⟩
  · rintro ⟨_, _, _, _, _, _, hchain, hconstant, hlast⟩
    cases hchain
    exact ⟨hconstant, hlast⟩

/-- A chain and its negation differ in truth. -/
theorem value_ne_of_negation {line opLine : Nat} {opFields : List Tree} {operand : Tree}
    (hneutral : isNeutralConnection operand = true) (assigned : Tree → OperandValue) :
    (Tree.node .unaryOp line [.node (.unary .not) opLine opFields, operand]).value assigned ≠
      operand.value assigned := by
  obtain ⟨_, _, _, op, first, rest, rfl, -⟩ := exists_chain_of_isNeutralConnection hneutral
  rw [Tree.value, Tree.chainValue, Tree.value_chain]
  intro hvalue
  exact (Bool.not_eq_self _).mp (congrArg OperandValue.truth hvalue)

theorem value_eq_iff_of_isEquivalent {c : Context} {t : Tree} {m : Mutation}
    (hm : m ∈ boolean c t) (hequivalent : isEquivalent m = true) :
    (∀ assigned, m.original.value assigned = m.replacement.value assigned) ↔
      IsConstantChain m.original := by
  obtain ⟨hneutral, hexchange | hnegation⟩ := original_of_isEquivalent hm hequivalent
  · obtain ⟨line, op, opLine, opFields, operands, hreplacement, horiginal⟩ := hexchange
    obtain ⟨_, _, _, _, first, rest, hchain, hfirst⟩ := exists_chain_of_isNeutralConnection hneutral
    rw [hreplacement] at hchain
    cases hchain
    rw [hreplacement, horiginal]
    exact value_eq_iff_of_exchange hfirst
  · obtain ⟨line, opLine, opFields, horiginal⟩ := hnegation
    rw [horiginal]
    refine iff_of_false (fun hvalues => ?_) fun hchain => ?_
    · exact value_ne_of_negation hneutral (fun _ => .object 0 true) (hvalues _)
    · obtain ⟨_, _, _, _, _, _, hchain, -⟩ := hchain
      cases hchain

end Boolean

/-- What is flagged among the mutations of an operation has the value of its original; among those of
a truth value, just where the original is a chain of constants. -/
theorem equivalent_mutation_keeps_value_iff {m : Mutation} (hequivalent : isEquivalent m = true)
    (c : Context) (t : Tree) :
    (m ∈ arithmetic c t →
      ∀ assigned, m.original.number? assigned = m.replacement.number? assigned) ∧
      (m ∈ boolean c t →
        ((∀ assigned, m.original.value assigned = m.replacement.value assigned) ↔
          IsConstantChain m.original)) :=
  ⟨fun hm => number?_of_isEquivalent hm hequivalent,
    fun hm => value_eq_iff_of_isEquivalent hm hequivalent⟩

/-- The name `x`. -/
def nameX : Tree := .node .name 1 [.text "x", .node (.usage .load) 0 []]

/-- `True or` an operand, or `True and` it. -/
def chainFromTrue (op : Connective) (operand : Tree) : Tree :=
  .node .boolOp 1 [.node (.connective op) 0 [],
    .list [Catalog.constantAt 1 (.bool true), operand]]

/-- `True or` an operand becomes `True and` it. -/
def exchangedChain (operand : Tree) : Mutation :=
  Strategy.boolean.propose ⟨"m.py", []⟩ (chainFromTrue .or operand) (chainFromTrue .and operand)
    "or to and"

/-- `True or x` is `True`, but `True and x` is `x`; the optimizer drops this mutation. -/
theorem chain_dropped_though_value_differs :
    ¬ ∀ (source : String) (t : Tree) (found : List Mutation), Source.parse? source = some t →
      mutationsOf [.boolean] "m.py" t = .ok found → ∀ candidate ∈ score found,
        candidate ∉ dropEquivalent (score found) → ∀ assigned,
          candidate.mutation.original.value assigned =
            candidate.mutation.replacement.value assigned := by
  intro hsound
  have hparse : Source.parse? "True or x\n" =
      some (.node .module 0 [.list [.node .expressionStatement 1 [chainFromTrue .or nameX]]]) := by
    decide +kernel
  have hfound : mutationsOf [.boolean] "m.py"
      (.node .module 0 [.list [.node .expressionStatement 1 [chainFromTrue .or nameX]]]) =
      .ok [exchangedChain nameX, Strategy.boolean.propose ⟨"m.py", []⟩
        (Catalog.constantAt 1 (.bool true)) (Catalog.constantAt 1 (.bool false))
        "True to False"] := by
    decide +kernel
  have hvalue := hsound _ _ _ hparse hfound _ List.mem_cons_self (by decide +kernel)
    fun _ => .object 0 false
  cases hvalue

/-- A name and nothing, added or subtracted. -/
def nothingBesideX (op : BinaryOperator) : Tree :=
  .node .binOp 1 [nameX, .node (.binary op) 0 [], Catalog.constantAt 1 (.int 0)]

theorem neutral_mutations_keep_value :
    let difference := Strategy.arithmetic.propose ⟨"m.py", []⟩ (nothingBesideX .add)
      (nothingBesideX .sub) "+ to -"
    let conjunction := exchangedChain (Catalog.constantAt 1 (.bool true))
    (isEquivalent difference = true ∧
      difference ∈ arithmetic ⟨"m.py", []⟩ (nothingBesideX .add) ∧
      ∀ assigned, difference.original.number? assigned = difference.replacement.number? assigned) ∧
    (isEquivalent conjunction = true ∧
      conjunction ∈ boolean ⟨"m.py", []⟩ conjunction.original ∧
      IsConstantChain conjunction.original ∧
      ∀ assigned, conjunction.original.value assigned = conjunction.replacement.value assigned) := by
  intro difference conjunction
  have hdifference : isEquivalent difference = true := rfl
  have hconjunction : isEquivalent conjunction = true := rfl
  have hmDifference : difference ∈ arithmetic ⟨"m.py", []⟩ (nothingBesideX .add) :=
    List.mem_cons_self
  have hmConjunction : conjunction ∈ boolean ⟨"m.py", []⟩ conjunction.original :=
    List.mem_cons_self
  have hchain : IsConstantChain conjunction.original := by
    refine ⟨1, 0, [], .or, _, _, rfl, ?_, rfl⟩
    rw [List.forall_mem_cons, List.forall_mem_singleton]
    exact ⟨⟨.bool true, rfl, rfl⟩, ⟨.bool true, rfl, rfl⟩⟩
  exact ⟨⟨hdifference, hmDifference,
      (equivalent_mutation_keeps_value_iff hdifference _ _).1 hmDifference⟩,
    hconjunction, hmConjunction, hchain,
    ((equivalent_mutation_keeps_value_iff hconjunction _ _).2 hmConjunction).mpr hchain⟩

end MutationTesting.Optimizer
