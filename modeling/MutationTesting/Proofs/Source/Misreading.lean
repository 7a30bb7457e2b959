import MutationTesting.Mutation.Walk
import MutationTesting.Proofs.Mutation.Rendering
import MutationTesting.Source.Parse

/-!
# Negative numbers that are misread

A negative number is printed as a sign and digits, without brackets.  At the head of a power, a call
or an attribute the sign is read as that of the whole expression.  So the text of such a tree is the
text of another one: that of the negated expression of the positive number.
-/

namespace MutationTesting

/-- The absolute value of a negative number. -/
def Literal.magnitude? : Literal → Option Literal
  | .int n => if n < 0 then .some (.int n.natAbs) else .none
  | .float x => if x.isNegative then .some (.float x.neg) else .none
  | _ => .none

namespace Tree

def negation (line : Nat) (t : Tree) : Tree :=
  .node .unaryOp line [.node (.unary .minus) 0 [], t]

mutual

/-- The tree with every negative number written as the negation of its absolute value. -/
def signed : Tree → Tree
  | .node .constant line (.literal value :: rest) =>
    match value.magnitude? with
    | some magnitude => negation line (.node .constant line (.literal magnitude :: rest))
    | none => .node .constant line (.literal value :: rest)
  | .node kind line fields => .node kind line (signeds fields)
  | .list items => .list (signeds items)
  | other => other
termination_by structural t => t

def signeds : List Tree → List Tree
  | [] => []
  | t :: rest => signed t :: signeds rest
termination_by structural ts => ts

end

theorem signeds_eq_map (ts : List Tree) : signeds ts = ts.map signed := by
  induction ts with
  | nil => rfl
  | cons t rest ih => rw [signeds, ih, List.map_cons]

theorem signed_node {kind : Kind} {line : Nat} {fields : List Tree} (hkind : kind ≠ .constant) :
    signed (.node kind line fields) = .node kind line (fields.map signed) := by
  rw [← signeds_eq_map]
  cases kind <;> first | rfl | exact absurd rfl hkind

/-- Whether an expression begins with a negative number, and another one with its absolute value
instead.  Attributes and calls begin with the expression they are applied to. -/
inductive Unsigns : Tree → Tree → Prop
  | constant {line : Nat} {value magnitude : Literal}
      (hmagnitude : value.magnitude? = some magnitude) :
      Unsigns (.node .constant line [.literal value, .absent])
        (.node .constant line [.literal magnitude, .absent])
  | member {line : Nat} {value value' usage : Tree} {name : String}
      (hvalue : Unsigns value value') :
      Unsigns (.node .attribute line [value, .text name, usage])
        (.node .attribute line [value', .text name, usage])
  | call {line : Nat} {func func' : Tree} {args keywords : List Tree}
      (hfunc : Unsigns func func') :
      Unsigns (.node .call line [func, .list args, .list keywords])
        (.node .call line [func', .list args, .list keywords])

end Tree

namespace Source

open MutationTesting.Tree (Unsigns negation)

theorem valueText_of_magnitude? {value magnitude : Literal} (avoidsBackslash : Bool)
    (hmagnitude : value.magnitude? = some magnitude) :
    valueText avoidsBackslash value =
      (valueText avoidsBackslash magnitude).map fun text => '-' :: text := by
  cases value with
  | int n =>
      rw [Literal.magnitude?] at hmagnitude
      split at hmagnitude
      next hn =>
          cases hmagnitude
          have hfits : Decimal.fits (n.natAbs : Int) = Decimal.fits n := rfl
          have hpositive : ¬ ((n.natAbs : Int) < 0) := by omega
          rw [valueText, valueText, hfits, Decimal.ofInt, if_pos hn, Decimal.ofInt,
            if_neg hpositive, Decimal.ofNat, Int.natAbs_natCast]
          cases Decimal.fits n <;> simp
      next => cases hmagnitude
  | float x =>
      rw [Literal.magnitude?] at hmagnitude
      split at hmagnitude
      next hx =>
          cases hmagnitude
          cases x with
          | finite negative significand exponent =>
              cases hx
              simp [valueText, floatText, Binary64.neg, Binary64.render]
          | infinite negative =>
              cases hx
              simp [valueText, floatText, Binary64.neg]
          | undefined => cases hx
      next => cases hmagnitude
  | _ => cases hmagnitude

theorem operand_of_isList {t : Tree} (hlist : isList t = false) (r : Renderer) (p : Place) :
    operand t r p = r p := by
  rw [operand, hlist]
  rfl

theorem isList_of_unsigns {e e' : Tree} (hsign : Unsigns e e') :
    isList e = false ∧ isList e' = false := by
  cases hsign <;> exact ⟨rfl, rfl⟩

theorem isWholeConstant_of_unsigns {e e' : Tree} (hsign : Unsigns e e') :
    isWholeConstant e = isWholeConstant e' := by
  cases hsign with
  | @constant _ value magnitude hmagnitude =>
      cases value with
      | int n =>
          rw [Literal.magnitude?] at hmagnitude
          split at hmagnitude <;> cases hmagnitude
          rfl
      | float x =>
          rw [Literal.magnitude?] at hmagnitude
          split at hmagnitude <;> cases hmagnitude
          rfl
      | _ => cases hmagnitude
  | _ => rfl

section Equations

variable (line : Nat) (p : Place)

theorem render_constant (value : Literal) (textMark : Tree) :
    render (.node .constant line [.literal value, textMark]) p =
      (valueText p.avoidsBackslash value).map fun text =>
        if textMark.isAbsent then text else 'u' :: text := rfl

theorem render_attribute (value usage : Tree) (name : String) :
    render (.node .attribute line [value, .text name, usage]) p = (do
      let v ← operand value (render value) (p.asking Precedence.atom)
      pure (v ++ (if isWholeConstant value then [' '] else []) ++ '.' :: name.toList)) := rfl

theorem render_call (func : Tree) (args keywords : List Tree) :
    render (.node .call line [func, .list args, .list keywords]) p = (do
      let f ← operand func (render func) (p.asking Precedence.atom)
      let items ← commaSeparated (renderers args ++ renderers keywords) p.plain
      pure (f ++ '(' :: items ++ [')'])) := rfl

theorem render_negation (value : Tree) :
    render (negation line value) p = (do
      let v ← operand value (render value) (p.asking Precedence.factor)
      pure (bracketed p Precedence.factor ('-' :: v))) := rfl

theorem render_power (opLine : Nat) (opFields : List Tree) (left right : Tree) :
    render (.node .binOp line [left, .node (.binary .pow) opLine opFields, right]) p = (do
      let l ← operand left (render left) (p.asking Precedence.await)
      let r ← operand right (render right) (p.asking Precedence.power)
      pure (bracketed p Precedence.power (l ++ ' ' :: "**".toList ++ ' ' :: r))) := rfl

end Equations

theorem bracketed_of_le {p : Place} {strength : Precedence} (hle : p.precedence ≤ strength)
    (text : List Char) : bracketed p strength text = text :=
  if_neg (Nat.not_lt.mpr hle)

/-- What begins with a negative number is printed as a sign and what begins with its absolute value,
however strongly the place asks it to bind. -/
theorem render_of_unsigns {e e' : Tree} (hsign : Unsigns e e') (p : Place)
    (precedence : Precedence) :
    render e p = (render e' (p.asking precedence)).map fun text => '-' :: text := by
  induction hsign generalizing p precedence with
  | constant hmagnitude =>
      rw [render_constant, render_constant, valueText_of_magnitude? _ hmagnitude, Option.map_map,
        Option.map_map]
      rfl
  | @member line value value' usage name hvalue ih =>
      obtain ⟨hlist, hlist'⟩ := isList_of_unsigns hvalue
      have hprinted : render value (p.asking Precedence.atom) =
          (render value' ((p.asking precedence).asking Precedence.atom)).map fun text =>
            '-' :: text := ih (p.asking Precedence.atom) Precedence.atom
      rw [render_attribute, render_attribute, operand_of_isList hlist, operand_of_isList hlist',
        hprinted, isWholeConstant_of_unsigns hvalue]
      cases render value' ((p.asking precedence).asking Precedence.atom) <;> rfl
  | @call line func func' args keywords hfunc ih =>
      obtain ⟨hlist, hlist'⟩ := isList_of_unsigns hfunc
      have hprinted : render func (p.asking Precedence.atom) =
          (render func' ((p.asking precedence).asking Precedence.atom)).map fun text =>
            '-' :: text := ih (p.asking Precedence.atom) Precedence.atom
      have hplain : (p.asking precedence).plain = p.plain := rfl
      rw [render_call, render_call, operand_of_isList hlist, operand_of_isList hlist', hprinted,
        hplain]
      cases render func' ((p.asking precedence).asking Precedence.atom) with
      | none => rfl
      | some f => cases commaSeparated (renderers args ++ renderers keywords) p.plain <;> rfl

/-- A call or an attribute of a negative number is printed like its negation. -/
theorem render_unsigned_primary {e e' : Tree} (hsign : Unsigns e e') (line : Nat) {p : Place}
    (hplace : p.precedence ≤ Precedence.factor) : render e p = render (negation line e') p := by
  obtain ⟨-, hlist'⟩ := isList_of_unsigns hsign
  rw [render_negation, operand_of_isList hlist', render_of_unsigns hsign p Precedence.factor]
  cases render e' (p.asking Precedence.factor) with
  | none => rfl
  | some text => exact congrArg some (bracketed_of_le hplace _).symm

/-- So is a power of what begins with a negative number. -/
theorem render_unsigned_power {base base' : Tree} (hsign : Unsigns base base')
    (line line' opLine : Nat) (opFields : List Tree) (exponent : Tree) {p : Place}
    (hplace : p.precedence ≤ Precedence.factor) :
    render (.node .binOp line [base, .node (.binary .pow) opLine opFields, exponent]) p =
      render (negation line'
        (.node .binOp line [base', .node (.binary .pow) opLine opFields, exponent])) p := by
  obtain ⟨hlist, hlist'⟩ := isList_of_unsigns hsign
  have hprinted : render base (p.asking Precedence.await) =
      (render base' ((p.asking Precedence.factor).asking Precedence.await)).map fun text =>
        '-' :: text := render_of_unsigns hsign (p.asking Precedence.await) Precedence.await
  have hexponent : (p.asking Precedence.factor).asking Precedence.power =
      p.asking Precedence.power := rfl
  rw [render_negation, operand_of_isList rfl, render_power, render_power, operand_of_isList hlist,
    operand_of_isList hlist', hprinted, hexponent]
  cases render base' ((p.asking Precedence.factor).asking Precedence.await) with
  | none => rfl
  | some b =>
      cases operand exponent (render exponent) (p.asking Precedence.power) with
      | none => rfl
      | some x =>
          have hpower : p.precedence ≤ Precedence.power := Nat.le_trans hplace (by decide)
          have hfactor : (p.asking Precedence.factor).precedence ≤ Precedence.power :=
            (by decide : Precedence.factor ≤ Precedence.power)
          simp [bracketed_of_le hpower, bracketed_of_le hfactor, bracketed_of_le hplace]

end Source

end MutationTesting
