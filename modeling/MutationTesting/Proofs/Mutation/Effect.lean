import MutationTesting.Proofs.Mutation.Difference
import MutationTesting.Proofs.Optimizer.ComparisonChange

/-!
# What a mutation changes

Every mutation is of one of sixteen sorts.  The sort of a mutation, its effect, is told by the original
and the replacement alone: it says which part of the node is another one afterwards, and that all
other parts are the same.
-/

namespace MutationTesting

/-- The sorts of change that strategies propose. -/
inductive Effect where
  | operatorSwap | operationRemoval
  | comparatorChange
  | connectiveSwap | truthValueSwap | negationRemoval
  | numberShift | floatShift | textChange | listFilling
  | callRemoval | argumentSwap
  | conditionInversion | unlessToIf | branchForcing | statementRemoval
deriving DecidableEq, Repr

namespace Effect

/-- The strategy whose mutations have an effect. -/
def strategy : Effect → Strategy
  | operatorSwap | operationRemoval => .arithmetic
  | comparatorChange => .comparison
  | connectiveSwap | truthValueSwap | negationRemoval => .boolean
  | numberShift | floatShift | textChange | listFilling => .literal
  | callRemoval | argumentSwap => .functionCall
  | conditionInversion | unlessToIf | branchForcing | statementRemoval => .conditional

end Effect

open Catalog in
/-- How the original and the replacement of a mutation differ. -/
inductive Change : Effect → Tree → Tree → Prop
  | operatorSwap {op : BinaryOperator} {change : ArithmeticChange}
      (hchange : arithmeticChange? op = some change) (line : Nat) (left right : Tree)
      (opLine : Nat) (opFields : List Tree) :
      Change .operatorSwap
        (.node .binOp line [left, .node (.binary op) opLine opFields, right])
        (.node .binOp line [left, .node (.binary change.inverse) opLine opFields, right])
  | operationRemoval (line : Nat) (fields : List Tree) (identity : Int) :
      Change .operationRemoval (.node .binOp line fields) (constantAt line (.int identity))
  | comparatorChange {op op' : Comparator} (hop : op' ∈ comparisonChanges op) (line : Nat)
      (left operands : Tree) (before after : List Tree) (opLine : Nat) (opFields : List Tree) :
      Change .comparatorChange
        (.node .compare line
          [left, .list (before ++ .node (.comparator op) opLine opFields :: after), operands])
        (.node .compare line [left, .list (before ++ comparatorNode op' :: after), operands])
  | connectiveSwap {op op' : Connective} (hop : op' ≠ op) (line : Nat) (values : Tree)
      (opLine : Nat) (opFields : List Tree) :
      Change .connectiveSwap
        (.node .boolOp line [.node (.connective op) opLine opFields, values])
        (.node .boolOp line [.node (.connective op') opLine opFields, values])
  | truthValueSwap (line : Nat) (b : Bool) (rest : List Tree) :
      Change .truthValueSwap (.node .constant line (.literal (.bool b) :: rest))
        (constantAt line (.bool !b))
  | negationRemoval (line opLine : Nat) (opFields : List Tree) (operand : Tree) :
      Change .negationRemoval
        (.node .unaryOp line [.node (.unary .not) opLine opFields, operand]) operand
  | numberShift {n n' : Int} (hn : n' = n + 1 ∨ n' = n - 1) (line : Nat) (rest : List Tree) :
      Change .numberShift (.node .constant line (.literal (.int n) :: rest))
        (constantAt line (.int n'))
  | floatShift {x x' : Binary64} (hx : x' = x.add .one ∨ x' = x.sub .one) (line : Nat)
      (rest : List Tree) :
      Change .floatShift (.node .constant line (.literal (.float x) :: rest))
        (constantAt line (.float x'))
  | textChange (line : Nat) (s s' : String) (rest : List Tree) :
      Change .textChange (.node .constant line (.literal (.text s) :: rest))
        (constantAt line (.text s'))
  | listFilling (line : Nat) (usage : Tree) :
      Change .listFilling (.node .list line [.list [], usage]) (filledList line usage)
  | callRemoval (line : Nat) (fields : List Tree) :
      Change .callRemoval (.node .call line fields) (constantAt line .none)
  | argumentSwap (line : Nat) (func first second keywords : Tree) (rest : List Tree) :
      Change .argumentSwap
        (.node .call line [func, .list (first :: second :: rest), keywords])
        (.node .call line [func, .list (second :: first :: rest), keywords])
  | conditionInversion {kind : Kind} (hkind : kind = .ifStatement ∨ kind = .ifExp) (line : Nat)
      (test body orelse : Tree) :
      Change .conditionInversion (.node kind line [test, body, orelse])
        (.node kind line [negated line test, body, orelse])
  | unlessToIf (line opLine innerLine : Nat) (opFields : List Tree) (operand body orelse : Tree) :
      Change .unlessToIf
        (.node .ifStatement line
          [.node .unaryOp innerLine [.node (.unary .not) opLine opFields, operand], body, orelse])
        (.node .ifStatement line [operand, body, orelse])
  | branchForcing {kind : Kind} (hkind : kind = .ifStatement ∨ kind = .ifExp) (line : Nat)
      (test body orelse : Tree) {branch : Tree} (hbranch : branch = body ∨ branch = orelse) :
      Change .branchForcing (.node kind line [test, body, orelse]) branch
  | statementRemoval (line : Nat) (fields : List Tree) :
      Change .statementRemoval (.node .ifStatement line fields) (.node .passStatement line [])

/-- Whether a mutation is one of an effect's strategy, and changes what the effect says. -/
structure Mutation.HasEffect (m : Mutation) (e : Effect) : Prop where
  strategy_eq : m.strategy = e.strategy.name
  change : Change e m.original m.replacement

/-- A proposal has the effect that its two trees differ by. -/
theorem Change.hasEffect_propose {e : Effect} {t replacement : Tree} (hchange : Change e t replacement)
    (c : Context) (change : String) : (e.strategy.propose c t replacement change).HasEffect e :=
  ⟨rfl, hchange⟩

namespace Catalog

variable (c : Context) (t : Tree)

variable {c t}

theorem exists_propose_of_shiftedNumber {line : Nat} {n n' : Int} {direction : String}
    {m : Mutation} (hshifted : shiftedNumber c t line n n' direction = .ok m) :
    ∃ change, m = Strategy.literal.propose c t (constantAt line (.int n')) change := by
  obtain ⟨before, -, hshifted⟩ := bind_eq_ok_iff.mp hshifted
  obtain ⟨after, -, hshifted⟩ := bind_eq_ok_iff.mp hshifted
  cases hshifted
  exact ⟨_, rfl⟩

/-- A number is moved up and down. -/
theorem exists_eq_of_shiftedNumbers {line : Nat} {n : Int} {found : List Mutation}
    (hfound : (do
      let up ← shiftedNumber c t line n (n + 1) "increment"
      let down ← shiftedNumber c t line n (n - 1) "decrement"
      pure [up, down]) = .ok found) :
    ∃ up down, found = [Strategy.literal.propose c t (constantAt line (.int (n + 1))) up,
      Strategy.literal.propose c t (constantAt line (.int (n - 1))) down] := by
  obtain ⟨up, hup, hfound⟩ := bind_eq_ok_iff.mp hfound
  obtain ⟨down, hdown, hfound⟩ := bind_eq_ok_iff.mp hfound
  obtain ⟨upward, rfl⟩ := exists_propose_of_shiftedNumber hup
  obtain ⟨downward, rfl⟩ := exists_propose_of_shiftedNumber hdown
  cases hfound
  exact ⟨upward, downward, rfl⟩

variable (c t)

end Catalog

end MutationTesting
