import Mathlib.Data.List.Forall2
import MutationTesting.Proofs.Tree.WellFormed

/-!
# What is in the fields of well-formed nodes

A well-formed node of a kind has just the fields that the grammar gives it.  For the kinds that
strategies look at, the lemmas here say which trees these are.
-/

namespace MutationTesting.Tree

section Contents

variable {t : Tree}

theorem exists_items_of_conforms {least : Nat} {item : Content}
    (ht : conforms (.sequence least item) t = true) :
    ∃ items, t = .list items ∧ ∀ i ∈ items, conforms item i = true := by
  cases t with
  | list items => exact ⟨items, rfl, (conforms_list_iff.mp ht).2⟩
  | node kind line fields => simp [conforms_node_iff, Content.single?] at ht
  | _ => cases ht

theorem exists_text_of_conforms (ht : conforms .text t = true) : ∃ s, t = .text s := by
  cases t with
  | text s => exact ⟨s, rfl⟩
  | node kind line fields => simp [conforms_node_iff, Content.single?] at ht
  | _ => cases ht

theorem exists_number_of_conforms (ht : conforms .number t = true) : ∃ n, t = .number n := by
  cases t with
  | number n => exact ⟨n, rfl⟩
  | node kind line fields => simp [conforms_node_iff, Content.single?] at ht
  | _ => cases ht

theorem exists_literal_of_conforms (ht : conforms .literal t = true) :
    ∃ value, t = .literal value := by
  cases t with
  | literal value => exact ⟨value, rfl⟩
  | node kind line fields => simp [conforms_node_iff, Content.single?] at ht
  | _ => cases ht

end Contents

namespace IsWellFormed

variable {t : Tree}

section Operators

theorem connective (ht : IsWellFormed .connective t) :
    ∃ op line fields, t = .node (.connective op) line fields := by
  obtain ⟨kind, line, fields, rfl, hkind⟩ := ht.exists_node
  cases kind with
  | connective op => exact ⟨op, line, fields, rfl⟩
  | _ => cases hkind

theorem binary (ht : IsWellFormed .binaryOperator t) :
    ∃ op line fields, t = .node (.binary op) line fields := by
  obtain ⟨kind, line, fields, rfl, hkind⟩ := ht.exists_node
  cases kind with
  | binary op => exact ⟨op, line, fields, rfl⟩
  | _ => cases hkind

theorem unary (ht : IsWellFormed .unaryOperator t) :
    ∃ op line fields, t = .node (.unary op) line fields := by
  obtain ⟨kind, line, fields, rfl, hkind⟩ := ht.exists_node
  cases kind with
  | unary op => exact ⟨op, line, fields, rfl⟩
  | _ => cases hkind

theorem comparator (ht : IsWellFormed .comparator t) :
    ∃ op line fields, t = .node (.comparator op) line fields := by
  obtain ⟨kind, line, fields, rfl, hkind⟩ := ht.exists_node
  cases kind with
  | comparator op => exact ⟨op, line, fields, rfl⟩
  | _ => cases hkind

end Operators

section Kinds

variable {sort : NodeSort} (ht : IsWellFormed sort t)

include ht

/-- The fields of a node hold what the grammar says, one by one. -/
theorem fields {kind : Kind} (hkind : t.isKind kind = true) :
    ∃ line fields, t = .node kind line fields ∧
      List.Forall₂ (fun content field => conforms content field = true) kind.contents fields := by
  obtain ⟨kind', line, fields, rfl, -⟩ := ht.exists_node
  obtain rfl : kind' = kind := Option.some.inj (of_decide_eq_true hkind)
  obtain ⟨hlength, hfields⟩ := fieldsConform_iff.mp (isWellFormed_node_iff.mp ht).2
  refine ⟨line, fields, rfl, List.forall₂_iff_get.mpr ⟨hlength, fun place hcontent hfield => ?_⟩⟩
  exact hfields place _ _ (List.getElem?_eq_getElem hcontent) (List.getElem?_eq_getElem hfield)

/-- Operators, for one, have no fields. -/
theorem fields_eq_nil {kind : Kind} (hkind : t.isKind kind = true) (hcontents : kind.contents = []) :
    t.fields = [] := by
  obtain ⟨line, fields, rfl, hfields⟩ := ht.fields hkind
  rw [hcontents] at hfields
  exact List.forall₂_nil_left_iff.mp hfields

theorem binOp (hkind : t.isKind .binOp = true) :
    ∃ line left op opLine opFields right,
      t = .node .binOp line [left, .node (.binary op) opLine opFields, right] := by
  obtain ⟨line, fields, rfl, hfields⟩ := ht.fields hkind
  rcases hfields with _ | ⟨-, _ | ⟨hoperator, _ | ⟨-, ⟨⟩⟩⟩⟩
  obtain ⟨op, opLine, opFields, rfl⟩ := IsWellFormed.binary hoperator
  exact ⟨line, _, op, opLine, opFields, _, rfl⟩

theorem boolOp (hkind : t.isKind .boolOp = true) :
    ∃ line op opLine opFields values,
      t = .node .boolOp line [.node (.connective op) opLine opFields, values] := by
  obtain ⟨line, fields, rfl, hfields⟩ := ht.fields hkind
  rcases hfields with _ | ⟨hoperator, _ | ⟨-, ⟨⟩⟩⟩
  obtain ⟨op, opLine, opFields, rfl⟩ := IsWellFormed.connective hoperator
  exact ⟨line, op, opLine, opFields, _, rfl⟩

theorem unaryOp (hkind : t.isKind .unaryOp = true) :
    ∃ line op opLine opFields operand,
      t = .node .unaryOp line [.node (.unary op) opLine opFields, operand] := by
  obtain ⟨line, fields, rfl, hfields⟩ := ht.fields hkind
  rcases hfields with _ | ⟨hoperator, _ | ⟨-, ⟨⟩⟩⟩
  obtain ⟨op, opLine, opFields, rfl⟩ := IsWellFormed.unary hoperator
  exact ⟨line, op, opLine, opFields, _, rfl⟩

theorem constant (hkind : t.isKind .constant = true) :
    ∃ line value textMark, t = .node .constant line [.literal value, textMark] := by
  obtain ⟨line, fields, rfl, hfields⟩ := ht.fields hkind
  rcases hfields with _ | ⟨hvalue, _ | ⟨-, ⟨⟩⟩⟩
  obtain ⟨value, rfl⟩ := exists_literal_of_conforms hvalue
  exact ⟨line, value, _, rfl⟩

theorem compare (hkind : t.isKind .compare = true) :
    ∃ line left operators operands,
      t = .node .compare line [left, .list operators, .list operands] ∧
        ∀ operator ∈ operators, IsWellFormed .comparator operator := by
  obtain ⟨line, fields, rfl, hfields⟩ := ht.fields hkind
  rcases hfields with _ | ⟨-, _ | ⟨hoperators, _ | ⟨hoperands, ⟨⟩⟩⟩⟩
  obtain ⟨operators, rfl, hoperator⟩ := exists_items_of_conforms hoperators
  obtain ⟨operands, rfl, -⟩ := exists_items_of_conforms hoperands
  exact ⟨line, _, operators, operands, rfl, hoperator⟩

/-- The operators of a comparison are all that its operator nodes hold. -/
theorem fields_operator (hkind : t.isKind .compare = true) :
    ∀ operator ∈ (t.field 1).items, operator.fields = [] := by
  obtain ⟨line, left, operators, operands, rfl, hoperators⟩ := ht.compare hkind
  intro operator hoperator
  have hwell := hoperators operator hoperator
  obtain ⟨op, opLine, fields, rfl⟩ := hwell.comparator
  exact hwell.fields_eq_nil (decide_eq_true rfl) rfl

theorem ifExp (hkind : t.isKind .ifExp = true) :
    ∃ line test body orelse, t = .node .ifExp line [test, body, orelse] := by
  obtain ⟨line, fields, rfl, hfields⟩ := ht.fields hkind
  rcases hfields with _ | ⟨-, _ | ⟨-, _ | ⟨-, ⟨⟩⟩⟩⟩
  exact ⟨line, _, _, _, rfl⟩

theorem ifStatement (hkind : t.isKind .ifStatement = true) :
    ∃ line test body orelse, t = .node .ifStatement line [test, body, .list orelse] ∧
      IsWellFormed .expression test := by
  obtain ⟨line, fields, rfl, hfields⟩ := ht.fields hkind
  rcases hfields with _ | ⟨htest, _ | ⟨-, _ | ⟨horelse, ⟨⟩⟩⟩⟩
  obtain ⟨orelse, rfl, -⟩ := exists_items_of_conforms horelse
  exact ⟨line, _, _, orelse, rfl, htest⟩

theorem call (hkind : t.isKind .call = true) :
    ∃ line func args keywords,
      t = .node .call line [func, .list args, .list keywords] := by
  obtain ⟨line, fields, rfl, hfields⟩ := ht.fields hkind
  rcases hfields with _ | ⟨-, _ | ⟨hargs, _ | ⟨hkeywords, ⟨⟩⟩⟩⟩
  obtain ⟨args, rfl, -⟩ := exists_items_of_conforms hargs
  obtain ⟨keywords, rfl, -⟩ := exists_items_of_conforms hkeywords
  exact ⟨line, _, args, keywords, rfl⟩

end Kinds

end IsWellFormed

end MutationTesting.Tree
