import Mathlib.Algebra.Order.Ring.Rat
import MutationTesting.Tree.Basic

/-!
# What operations mean

The value of an operation, once its operands have theirs.  A constant has its own value; any other
operand has the value that an assignment gives to it.  Arithmetic is exact.  A chain of `and` or `or`
stops at the first operand that decides it and has the value of the operand where it ends.
-/

namespace MutationTesting

/-- The literal that a constant writes. -/
def Tree.constant? : Tree → Option Literal
  | .node .constant _ (.literal value :: _) => some value
  | _ => none

section Arithmetic

/-- The exact value of a finite number. -/
def Binary64.rational? : Binary64 → Option ℚ
  | .finite negative significand exponent =>
    some ((if negative then -1 else 1) * significand * (2 : ℚ) ^ exponent)
  | _ => none

/-- The exact value of a number; a truth value counts as one or zero. -/
def Literal.rational? : Literal → Option ℚ
  | .int n => some n
  | .bool value => some (if value then 1 else 0)
  | .float x => x.rational?
  | _ => .none

/-- Exact arithmetic; there is no quotient by zero. -/
def BinaryOperator.calculate? : BinaryOperator → ℚ → ℚ → Option ℚ
  | .add, x, y => some (x + y)
  | .sub, x, y => some (x - y)
  | .mult, x, y => some (x * y)
  | .div, x, y => if y = 0 then none else some (x / y)
  | _, _, _ => none

namespace Tree

variable (assigned : Tree → ℚ)

def operandNumber? (t : Tree) : Option ℚ :=
  match t.constant? with
  | some value => value.rational?
  | none => some (assigned t)

/-- The exact value of an operation on numbers. -/
def number? : Tree → Option ℚ
  | .node .binOp _ [left, .node (.binary op) _ _, right] => do
    let x ← operandNumber? assigned left
    let y ← operandNumber? assigned right
    op.calculate? x y
  | t => operandNumber? assigned t

end Tree

end Arithmetic

section Truth

/-- A value: that of a literal, or an object of which nothing is known but whether it counts as
true. -/
inductive OperandValue where
  | literal (value : Literal)
  | object (identity : Nat) (truth : Bool)

/-- Whether a literal counts as true: nothing, zero and whatever is empty do not. -/
def Literal.truth : Literal → Bool
  | .none => false
  | .ellipsis => true
  | .bool value => value
  | .int n => decide (n ≠ 0)
  | .float x => !x.same .zero
  | .imaginary x => !x.same .zero
  | .text s => decide (s ≠ "")
  | .bytes bs => !bs.isEmpty

def OperandValue.truth : OperandValue → Bool
  | literal value => value.truth
  | object _ truth => truth

/-- The truth of an operand that decides a chain. -/
def Connective.deciding : Connective → Bool
  | .and => false
  | .or => true

def Connective.dual : Connective → Connective
  | .and => .or
  | .or => .and

/-- The value of a chain from an operand on. -/
def Connective.chain (op : Connective) : OperandValue → List OperandValue → OperandValue
  | v, [] => v
  | v, w :: rest => if v.truth = op.deciding then v else chain op w rest

namespace Tree

variable (assigned : Tree → OperandValue)

def operandValue (t : Tree) : OperandValue :=
  match t.constant? with
  | some value => .literal value
  | none => assigned t

/-- The value of a chain of operands, or of a single one. -/
def chainValue : Tree → OperandValue
  | .node .boolOp _ [.node (.connective op) _ _, .list (first :: rest)] =>
    op.chain (operandValue assigned first) (rest.map (operandValue assigned))
  | t => operandValue assigned t

/-- The value of a chain, of its negation, or of a single operand. -/
def value : Tree → OperandValue
  | .node .unaryOp _ [.node (.unary .not) _ _, operand] =>
    .literal (.bool !(chainValue assigned operand).truth)
  | t => chainValue assigned t

theorem value_chain {line opLine : Nat} {op : Connective} {opFields rest : List Tree}
    {first : Tree} :
    (node .boolOp line
      [.node (.connective op) opLine opFields, .list (first :: rest)]).value assigned =
        op.chain (operandValue assigned first) (rest.map (operandValue assigned)) := by
  rw [value, chainValue]
  simp

variable {assigned}

theorem operandValue_of_constant? {t : Tree} {value : Literal} (ht : t.constant? = some value) :
    t.operandValue assigned = .literal value := by
  rw [operandValue, ht]

theorem operandValue_of_not_constant {t : Tree} (ht : t.constant? = none) :
    t.operandValue assigned = assigned t := by
  rw [operandValue, ht]

end Tree

@[simp]
theorem Connective.deciding_dual (op : Connective) : op.dual.deciding = !op.deciding := by
  cases op <;> rfl

theorem Connective.chain_of_decides {op : Connective} {v : OperandValue}
    (hdecides : v.truth = op.deciding) (rest : List OperandValue) : op.chain v rest = v := by
  cases rest with
  | nil => rfl
  | cons w rest => rw [chain, if_pos hdecides]

/-- A chain in which nothing is decided before its end has the value of its last operand. -/
theorem Connective.chain_eq_bool_iff (op : Connective) (v : OperandValue) (rest : List OperandValue) :
    op.chain v rest = .literal (.bool !op.deciding) ↔
      (∀ w ∈ v :: rest, w.truth = !op.deciding) ∧
        (v :: rest).getLast? = some (.literal (.bool !op.deciding)) := by
  induction rest generalizing v with
  | nil =>
      rw [chain, List.forall_mem_singleton, List.getLast?_singleton, Option.some_inj]
      constructor
      · intro hv
        rw [hv]
        exact ⟨rfl, rfl⟩
      · exact fun hboth => hboth.2
  | cons w rest ih =>
      rw [chain, List.forall_mem_cons, List.getLast?_cons_cons]
      by_cases hdecides : v.truth = op.deciding
      · have hopposite : v.truth ≠ !op.deciding := by simp [hdecides]
        rw [if_pos hdecides]
        refine iff_of_false (fun hv => hopposite ?_) fun hall => hopposite hall.1.1
        rw [hv]
        rfl
      · have hopposite : v.truth = !op.deciding := Bool.eq_not.mpr hdecides
        rw [if_neg hdecides, ih, and_iff_right hopposite]

end Truth

end MutationTesting
