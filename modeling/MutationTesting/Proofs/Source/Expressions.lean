import Mathlib.Data.List.Forall2
import MutationTesting.Proofs.Mutation.Visit
import MutationTesting.Proofs.Tree.Fields
import MutationTesting.Source.Print.Render

/-!
# Expressions have texts

A well-formed expression is printed at every place, however deep it is, unless it holds a whole
number with too many digits or a formatted string that has no text.  The proof has one lemma for each
kind of node: it is printed if its fields are.
-/

namespace MutationTesting

namespace Tree

/-- The whole number that a constant stands for. -/
def wholeNumber? : Tree → Option Int
  | .node .constant _ (.literal (.int n) :: _) => some n
  | _ => none

/-- Whether a node is a formatted string or a replacement field of one. -/
def isFormatted (t : Tree) : Bool := t.isKind .joinedStr || t.isKind .formattedValue

end Tree

namespace Source

open MutationTesting.Tree (IsWellFormed fieldsConform)

section Steps

variable {α β : Type}

theorem exists_bind {x : Option α} {f : α → Option β} (hx : ∃ a, x = some a)
    (hf : ∀ a, ∃ b, f a = some b) : ∃ b, x >>= f = some b := by
  obtain ⟨a, rfl⟩ := hx
  exact hf a

theorem exists_map {x : Option α} (hx : ∃ a, x = some a) (f : α → β) :
    ∃ b, x.map f = some b := by
  obtain ⟨a, rfl⟩ := hx
  exact ⟨f a, rfl⟩

theorem exists_mapM {f : α → Option β} {items : List α} (hf : ∀ a ∈ items, ∃ b, f a = some b) :
    ∃ results, items.mapM f = some results := by
  induction items with
  | nil => exact ⟨[], rfl⟩
  | cons first rest ih =>
      obtain ⟨hfirst, hrest⟩ := List.forall_mem_cons.mp hf
      rw [List.mapM_cons]
      exact exists_bind hfirst fun _ => exists_bind (ih hrest) fun _ => ⟨_, rfl⟩

end Steps

/-- Whether a renderer gives a text at every place. -/
def Renderer.IsTotal (r : Renderer) : Prop := ∀ p, ∃ text, r p = some text

section Parts

variable {rs : List Renderer} {r : Renderer} (p : Place)

end Parts

theorem renderers_eq_map (ts : List Tree) : renderers ts = ts.map render := by
  induction ts with
  | nil => rfl
  | cons t rest ih => exact congrArg (render t :: ·) ih

/-- The sorts of node that occur in expressions and have texts of their own. -/
def isInExpression : NodeSort → Bool
  | .expression | .comprehension | .arguments | .argument | .keyword => true
  | _ => false

/-- Whether a tree is printed at every place, if it is a well-formed part of an expression. -/
def Prints (t : Tree) : Prop :=
  ∀ sort, isInExpression sort = true → IsWellFormed sort t → (render t).IsTotal

/-- Whether a field holds what it should, and prints. -/
structure FieldPrints (content : Content) (t : Tree) : Prop where
  conforms : Tree.conforms content t = true
  prints : Prints t
  items : ∀ item ∈ t.items, Prints item

namespace FieldPrints

variable {sort : NodeSort} {least : Nat} {t : Tree}

theorem total (ht : FieldPrints (.node sort) t) (hsort : isInExpression sort = true) :
    (render t).IsTotal :=
  ht.prints sort hsort ht.conforms

theorem operand (ht : FieldPrints (.node sort) t) (hsort : isInExpression sort = true) (p : Place) :
    ∃ text, operand t (render t) p = some text := by
  obtain ⟨kind, line, fields, rfl, -⟩ := IsWellFormed.exists_node ht.conforms
  exact ht.total hsort p

theorem absent_or_total (ht : Tree.conforms (.optional (.node sort)) t = true)
    (hprints : Prints t) (hsort : isInExpression sort = true) :
    t = .absent ∨ t.isNode = true ∧ (render t).IsTotal := by
  cases t with
  | node kind line fields =>
      obtain ⟨hsingle, hfields⟩ := Tree.conforms_node_iff.mp ht
      cases hsingle
      exact Or.inr ⟨rfl, hprints kind.sort hsort (Tree.isWellFormed_node_iff.mpr ⟨rfl, hfields⟩)⟩
  | absent => exact Or.inl rfl
  | _ => cases ht

theorem total_of_mem_ifPresent (ht : t = .absent ∨ t.isNode = true ∧ (render t).IsTotal) :
    ∀ r ∈ ifPresent t (render t), Renderer.IsTotal r := by
  intro r hr
  rcases ht with rfl | ⟨hnode, htotal⟩
  · cases hr
  · rw [ifPresent, Option.mem_def, Option.ite_none_right_eq_some] at hr
    obtain ⟨-, hr⟩ := hr
    cases hr
    exact htotal

theorem optional (ht : FieldPrints (.optional (.node sort)) t)
    (hsort : isInExpression sort = true) : ∀ r ∈ ifPresent t (render t), Renderer.IsTotal r :=
  total_of_mem_ifPresent (absent_or_total ht.conforms ht.prints hsort)

theorem exists_items {item : Content} (ht : FieldPrints (.sequence least item) t) :
    ∃ items, t = .list items ∧
      ∀ i ∈ items, Tree.conforms item i = true ∧ Prints i := by
  obtain ⟨items, rfl, hitems⟩ := Tree.exists_items_of_conforms ht.conforms
  exact ⟨items, rfl, fun i hi => ⟨hitems i hi, ht.items i hi⟩⟩

theorem sequence (ht : FieldPrints (.sequence least (.node sort)) t)
    (hsort : isInExpression sort = true) :
    ∃ items, t = .list items ∧ ∀ r ∈ renderers items, Renderer.IsTotal r := by
  obtain ⟨items, rfl, hitems⟩ := ht.exists_items
  refine ⟨items, rfl, fun r hr => ?_⟩
  rw [renderers_eq_map] at hr
  obtain ⟨i, hi, rfl⟩ := List.mem_map.mp hr
  exact (hitems i hi).2 sort hsort (hitems i hi).1

theorem withOperand (ht : FieldPrints (.node sort) t) (hsort : isInExpression sort = true)
    (keyword : String) (p : Place) : ∃ text, withOperand keyword t (render t) p = some text := by
  have hoperand := ht.operand hsort (p.asking Precedence.atom)
  obtain ⟨kind, line, fields, rfl, -⟩ := IsWellFormed.exists_node ht.conforms
  exact exists_map hoperand _

theorem text (ht : FieldPrints .text t) : ∃ s, t = .text s :=
  Tree.exists_text_of_conforms ht.conforms

theorem number (ht : FieldPrints .number t) : ∃ n, t = .number n :=
  Tree.exists_number_of_conforms ht.conforms

theorem literal (ht : FieldPrints .literal t) : ∃ value, t = .literal value :=
  Tree.exists_literal_of_conforms ht.conforms

theorem connective (ht : FieldPrints (.node .connective) t) :
    ∃ op line fields, t = .node (.connective op) line fields :=
  IsWellFormed.connective ht.conforms

theorem binary (ht : FieldPrints (.node .binaryOperator) t) :
    ∃ op line fields, t = .node (.binary op) line fields :=
  IsWellFormed.binary ht.conforms

theorem unary (ht : FieldPrints (.node .unaryOperator) t) :
    ∃ op line fields, t = .node (.unary op) line fields :=
  IsWellFormed.unary ht.conforms

end FieldPrints

section Kinds

variable {line : Nat} {fields : List Tree}

end Kinds

/-- Whether the whole numbers of a tree have few enough digits, and its formatted strings have
texts. -/
structure Writable (t : Tree) : Prop where
  numbers : ∀ v ∈ t.visits, ∀ n ∈ v.node.wholeNumber?, Decimal.fits n = true
  formatted : ∀ v ∈ t.visits, v.node.isFormatted = true → (unparse? v.node).isSome = true

theorem Writable.below {kind : Kind} {line : Nat} {fields : List Tree} {field t : Tree}
    (hwritable : Writable (.node kind line fields)) (hfield : field ∈ fields)
    (ht : t = field ∨ t ∈ field.items) : Writable t := by
  constructor
  · intro v hv
    obtain ⟨w, hw, hnode⟩ := Tree.exists_visit_below hfield ht hv
    rw [← hnode]
    exact hwritable.numbers w hw
  · intro v hv
    obtain ⟨w, hw, hnode⟩ := Tree.exists_visit_below hfield ht hv
    rw [← hnode]
    exact hwritable.formatted w hw

end Source

end MutationTesting
