import Mathlib
import MutationTesting.Proofs.Mutation.Description
import MutationTesting.Proofs.Tree.Fields

/-!
# How many mutations a walk finds

How many mutations a strategy proposes for a node can be told from the kind of the node, its
operators, its arguments and where it stands, without asking the strategy.  This gives a census of a
program, and a walk finds as many mutations as the census counts, node by node.
-/

namespace MutationTesting

open MutationTesting.Tree (IsWellFormed)

namespace Census

/-- In how many ways an operator is exchanged, or an operation replaced for its operator. -/
def operatorCount : Kind → Nat
  | .binary .add | .binary .sub | .binary .mult | .binary .div => 2
  | .comparator .gt | .comparator .lt | .comparator .gtE | .comparator .ltE => 2
  | .comparator .eq | .comparator .notEq | .comparator .is | .comparator .isNot => 1
  | _ => 0

def arithmetic (t : Tree) : Nat :=
  if t.isKind .binOp then (t.field 1).kind?.elim 0 operatorCount else 0

/-- A chain is counted at each of its operators. -/
def comparison (t : Tree) : Nat :=
  if t.isKind .compare then
    ((t.field 1).items.map fun operator => operator.kind?.elim 0 operatorCount).sum
  else 0

def isTruthValue (t : Tree) : Bool :=
  t.isKind .constant && [true, false].any fun b => decide (t.field 0 = .literal (.bool b))

def isNegation (t : Tree) : Bool := t.isKind .unaryOp && (t.field 0).isKind (.unary .not)

def boolean (t : Tree) : Nat :=
  if t.isKind .boolOp || isTruthValue t || isNegation t then 1 else 0

/-- Only a negated condition without an `else` part has no third mutation. -/
def conditional (t : Tree) : Nat :=
  if t.isKind .ifExp then 3
  else if t.isKind .ifStatement then
    if isNegation (t.field 0) && (t.field 2).items.isEmpty then 2 else 3
  else 0

/-- Whether a visit is to one of the decorators of a definition. -/
def isDecorator (v : Visit) : Bool :=
  v.above.getLast?.any fun a => a.node.kind?.bind Catalog.decoratorField? == some a.field

/-- Whether a text is a name, or ends in it after a point. -/
def endsInName (name text : List Char) : Bool :=
  decide (text = name) || ('.' :: name).isSuffixOf text

/-- Whether the last name in the text of a called expression is that of a special form. -/
def isSpecialForm (func : Tree) : Bool :=
  (Source.unparse? func).any fun text =>
    Catalog.specialForms.any fun form => endsInName form.toList text

/-- Whether a visit is to a call that may be mutated: it has an argument, is no decorator and calls
no special form. -/
def isPlainCall (v : Visit) : Bool :=
  v.node.isKind .call && !((v.node.field 1).items.isEmpty && (v.node.field 2).items.isEmpty) &&
    !isDecorator v && !isSpecialForm (v.node.field 0)

def functionCall (v : Visit) : Nat :=
  if isPlainCall v then 1 + (if 2 ≤ (v.node.field 1).items.length then 1 else 0) else 0

end Census

/-- Whether a mutation is one of a strategy at a node of a file, and says so. -/
structure Mutation.ComesFrom (m : Mutation) (s : Strategy) (filePath : String) (t : Tree) :
    Prop where
  names : m.Names t
  filePath_eq : m.filePath = filePath
  description_eq : ∃ change, m.description = s.name ++ ": " ++ change

/-- Whether a walk with one strategy finds at each visit as many mutations as counted there, which all
come from the node of the visit. -/
def FindsExactly (s : Strategy) (count : Visit → Nat) (c : Context) (t : Tree) : Prop :=
  ∃ parts : List (List Mutation), walk [s] c t = .ok parts.flatten ∧
    parts.flatten.length = (t.visits.map count).sum ∧
    List.Forall₂ (fun v part => part.length = count v ∧ ∀ m ∈ part, m.ComesFrom s c.filePath v.node)
      t.visits parts

theorem Strategy.Proposes.comesFrom {s : Strategy} {c : Context} {t : Tree} {m : Mutation}
    (hm : s.Proposes c t m) : m.ComesFrom s c.filePath t := by
  refine ⟨hm.names, hm.filePath_eq, ?_⟩
  obtain ⟨⟨replacement, change, rfl⟩, -⟩ := hm
  exact ⟨change, rfl⟩

section Walk

/-- If there is an answer at every place, they are joined, place by place. -/
theorem exists_parts_proposalsOver {α : Type} {proposals : α → Proposals}
    {Suits : α → List Mutation → Prop} {places : List α}
    (hplaces : ∀ place ∈ places, ∃ here, proposals place = .ok here ∧ Suits place here) :
    ∃ parts, proposalsOver proposals places = .ok parts.flatten ∧
      List.Forall₂ Suits places parts := by
  induction places with
  | nil => exact ⟨[], rfl, List.Forall₂.nil⟩
  | cons first rest ih =>
      obtain ⟨⟨here, hhere, hsuits⟩, hrest⟩ := List.forall_mem_cons.mp hplaces
      obtain ⟨parts, hparts, hall⟩ := ih hrest
      refine ⟨here :: parts, ?_, List.Forall₂.cons hsuits hall⟩
      rw [proposalsOver, hhere, hparts]
      rfl

theorem length_flatten_of_forall₂ {α β : Type} {count : α → Nat} {places : List α}
    {parts : List (List β)}
    (hparts : List.Forall₂ (fun place part => part.length = count place) places parts) :
    parts.flatten.length = (places.map count).sum := by
  induction hparts with
  | nil => rfl
  | cons hfirst _ ih =>
      rw [List.flatten_cons, List.length_append, hfirst, ih, List.map_cons, List.sum_cons]

variable {s : Strategy} {count : Visit → Nat} {c : Context} {t : Tree}

theorem findsExactly_of_forall_visits
    (hvisits : ∀ v ∈ t.visits, ∃ part,
      s.mutate ⟨c.filePath, c.ancestors ++ v.above⟩ v.node = .ok part ∧ part.length = count v) :
    FindsExactly s count c t := by
  have hplaces : ∀ v ∈ t.visits, ∃ part,
      proposalsAt [s] ⟨c.filePath, c.ancestors ++ v.above⟩ v.node = .ok part ∧
        part.length = count v ∧ ∀ m ∈ part, m.ComesFrom s c.filePath v.node := by
    intro v hv
    obtain ⟨part, hpart, hlength⟩ := hvisits v hv
    refine ⟨part, ?_, hlength, fun m hm => (Strategy.mutate_proposes hpart m hm).comesFrom⟩
    rw [proposalsAt, hpart, proposalsAt]
    exact congrArg Except.ok (List.append_nil part)
  obtain ⟨parts, hparts, hall⟩ := exists_parts_proposalsOver hplaces
  exact ⟨parts, (walk_eq_proposalsOver [s] c t).trans hparts,
    length_flatten_of_forall₂ (hall.imp fun _ _ h => h.1), hall⟩

/-- A strategy that never fails is asked about the well-formed nodes of a program only. -/
theorem findsExactly_of_isWellFormed {propose : Context → Tree → List Mutation} {count : Tree → Nat}
    {sort : NodeSort} (ht : IsWellFormed sort t) (hmutate : ∀ c t, s.mutate c t = .ok (propose c t))
    (hcount : ∀ c {t sort}, IsWellFormed sort t → (propose c t).length = count t) :
    FindsExactly s (fun v => count v.node) c t := by
  refine findsExactly_of_forall_visits fun v hv => ?_
  obtain ⟨sort', hnode⟩ := Tree.exists_isWellFormed_of_nodeAt? ht (Tree.nodeAt?_of_mem_visits hv)
  exact ⟨_, hmutate _ _, hcount _ hnode⟩

end Walk

section Nodes

variable (c : Context) {t : Tree} {sort : NodeSort}

theorem length_arithmetic (ht : IsWellFormed sort t) :
    (Catalog.arithmetic c t).length = Census.arithmetic t := by
  by_cases hkind : t.isKind .binOp = true
  · obtain ⟨line, left, op, opLine, opFields, right, rfl⟩ := ht.binOp hkind
    cases op <;> rfl
  · rw [Census.arithmetic, if_neg hkind]
    unfold Catalog.arithmetic
    split
    · exact absurd rfl hkind
    · rfl

theorem length_comparisonChanges (op : Comparator) :
    (Catalog.comparisonChanges op).length = Census.operatorCount (.comparator op) := by
  cases op <;> rfl

theorem length_comparatorVariants {passed operators : List Tree}
    (hoperators : ∀ operator ∈ operators, IsWellFormed .comparator operator) :
    (Catalog.comparatorVariants passed operators).length =
      (operators.map fun operator => operator.kind?.elim 0 Census.operatorCount).sum := by
  induction operators generalizing passed with
  | nil => rfl
  | cons first rest ih =>
      obtain ⟨hfirst, hrest⟩ := List.forall_mem_cons.mp hoperators
      obtain ⟨op, line, fields, rfl⟩ := hfirst.comparator
      rw [Catalog.comparatorVariants, List.length_append, ih hrest, List.length_map,
        length_comparisonChanges, List.map_cons, List.sum_cons]
      rfl

theorem length_comparison (ht : IsWellFormed sort t) :
    (Catalog.comparison c t).length = Census.comparison t := by
  by_cases hkind : t.isKind .compare = true
  · obtain ⟨line, left, operators, operands, rfl, hoperators⟩ := ht.compare hkind
    rw [Catalog.comparison, List.length_map, length_comparatorVariants hoperators,
      Census.comparison, if_pos hkind]
    rfl
  · rw [Census.comparison, if_neg hkind]
    unfold Catalog.comparison
    split
    · exact absurd rfl hkind
    · rfl

theorem isTruthValue_iff (ht : IsWellFormed sort t) :
    Census.isTruthValue t = true ↔
      ∃ line b textMark, t = .node .constant line [.literal (.bool b), textMark] := by
  rw [Census.isTruthValue, Bool.and_eq_true, List.any_eq_true]
  constructor
  · rintro ⟨hkind, b, -, hvalue⟩
    obtain ⟨line, value, textMark, rfl⟩ := ht.constant hkind
    cases of_decide_eq_true hvalue
    exact ⟨line, b, textMark, rfl⟩
  · rintro ⟨line, b, textMark, rfl⟩
    exact ⟨rfl, b, by cases b <;> simp, decide_eq_true rfl⟩

theorem isNegation_iff (ht : IsWellFormed sort t) :
    Census.isNegation t = true ↔
      ∃ line opLine opFields operand,
        t = .node .unaryOp line [.node (.unary .not) opLine opFields, operand] := by
  rw [Census.isNegation, Bool.and_eq_true]
  constructor
  · rintro ⟨hkind, hnot⟩
    obtain ⟨line, op, opLine, opFields, operand, rfl⟩ := ht.unaryOp hkind
    cases of_decide_eq_true hnot
    exact ⟨line, opLine, opFields, operand, rfl⟩
  · rintro ⟨line, opLine, opFields, operand, rfl⟩
    exact ⟨rfl, rfl⟩

theorem length_boolean (ht : IsWellFormed sort t) :
    (Catalog.boolean c t).length = Census.boolean t := by
  rw [Census.boolean]
  split
  next hcounted =>
      rw [Bool.or_eq_true, Bool.or_eq_true, isTruthValue_iff ht, isNegation_iff ht] at hcounted
      rcases hcounted with (hkind | ⟨line, b, textMark, rfl⟩) | ⟨line, _, _, operand, rfl⟩
      · obtain ⟨line, op, opLine, opFields, values, rfl⟩ := ht.boolOp hkind
        cases op <;> rfl
      · cases b <;> rfl
      · rfl
  next hcounted =>
      unfold Catalog.boolean
      split
      case h_6 => rfl
      all_goals exact absurd rfl hcounted

theorem length_conditional_ifStatement {line : Nat} {test body : Tree} {orelse : List Tree}
    (htest : IsWellFormed sort test) :
    (Catalog.conditional c (.node .ifStatement line [test, body, .list orelse])).length =
      if Census.isNegation test && orelse.isEmpty then 2 else 3 := by
  cases hnegation : Census.isNegation test with
  | true =>
      obtain ⟨_, _, _, operand, rfl⟩ := (isNegation_iff htest).mp hnegation
      cases orelse <;> rfl
  | false =>
      unfold Catalog.conditional
      split
      next heq =>
          cases heq
          cases hnegation
      next heq =>
          cases heq
          rfl
      next heq => cases heq
      next _ hstatement _ => exact absurd rfl (hstatement _ _ _ _)

theorem length_conditional (ht : IsWellFormed sort t) :
    (Catalog.conditional c t).length = Census.conditional t := by
  rw [Census.conditional]
  split
  next hexpression =>
      obtain ⟨line, test, body, orelse, rfl⟩ := ht.ifExp hexpression
      rfl
  next hexpression =>
      split
      next hstatement =>
          obtain ⟨line, test, body, orelse, rfl, htest⟩ := ht.ifStatement hstatement
          exact length_conditional_ifStatement c htest
      next hstatement =>
          unfold Catalog.conditional
          split
          · exact absurd rfl hstatement
          · exact absurd rfl hstatement
          · exact absurd rfl hexpression
          · rfl

end Nodes

section Calls

/-- The last name of a text is a name without points just if the text ends in that name. -/
theorem lastName_eq_iff {text name : List Char} (hname : '.' ∉ name) :
    Catalog.lastName text = name ↔ Census.endsInName name text = true := by
  rw [Census.endsInName, Bool.or_eq_true, decide_eq_true_eq, List.isSuffixOf_iff_suffix]
  have hpoints : ∀ a ∈ name.reverse, (a != '.') = true := fun a ha =>
    bne_iff_ne.mpr (ne_of_mem_of_not_mem (List.mem_reverse.mp ha) hname)
  constructor
  · rintro rfl
    have hparts : text.reverse.takeWhile (· != '.') ++ text.reverse.dropWhile (· != '.') =
        text.reverse := List.takeWhile_append_dropWhile
    cases hbefore : text.reverse.dropWhile (· != '.') with
    | nil =>
        rw [hbefore, List.append_nil] at hparts
        exact Or.inl (by rw [Catalog.lastName, hparts, List.reverse_reverse])
    | cons point before =>
        obtain rfl : point = '.' := by
          have hpoint := List.head_dropWhile_not (· != '.') (l := text.reverse) (by simp [hbefore])
          simpa [hbefore] using hpoint
        rw [hbefore] at hparts
        refine Or.inr ⟨before.reverse, List.reverse_inj.mp ?_⟩
        simpa [Catalog.lastName] using hparts
  · rintro (rfl | ⟨before, rfl⟩)
    · rw [Catalog.lastName, List.takeWhile_eq_self_iff.mpr hpoints, List.reverse_reverse]
    · rw [Catalog.lastName, List.reverse_append, List.reverse_cons, List.append_assoc,
        List.takeWhile_append_of_pos hpoints, List.singleton_append, List.takeWhile_cons_of_neg]
      · rw [List.append_nil, List.reverse_reverse]
      · simp

theorem point_not_mem_of_mem_specialForms :
    ∀ form ∈ Catalog.specialForms, '.' ∉ form.toList := by decide +kernel

theorem contains_lastName_eq {func : Tree} {text : List Char}
    (htext : Source.unparse? func = some text) :
    Catalog.specialForms.contains (String.ofList (Catalog.lastName text)) =
      Census.isSpecialForm func := by
  rw [Census.isSpecialForm, htext, Option.any_some, Bool.eq_iff_iff, List.contains_iff_mem,
    List.any_eq_true]
  constructor
  · intro hform
    have hpoint := point_not_mem_of_mem_specialForms _ hform
    exact ⟨_, hform, (lastName_eq_iff hpoint).mp String.toList_ofList.symm⟩
  · rintro ⟨form, hform, hends⟩
    rwa [(lastName_eq_iff (point_not_mem_of_mem_specialForms form hform)).mpr hends,
      String.ofList_toList]

theorem isSpecialForm_of_endsInName {func : Tree} {text : List Char} {name : String}
    (htext : Source.unparse? func = some text) (hname : '.' ∉ name.toList)
    (hends : Census.endsInName name.toList text = true) :
    Census.isSpecialForm func = Catalog.specialForms.contains name := by
  rw [← contains_lastName_eq htext, (lastName_eq_iff hname).mpr hends, String.ofList_toList]

theorem isSpecialForm_name {line : Nat} {id : String} {usage : Tree} (hid : '.' ∉ id.toList) :
    Census.isSpecialForm (.node .name line [.text id, usage]) =
      Catalog.specialForms.contains id := by
  have htext : Source.unparse? (.node .name line [.text id, usage]) = some id.toList := rfl
  refine isSpecialForm_of_endsInName htext hid ?_
  rw [Census.endsInName, decide_eq_true rfl, Bool.true_or]

/-- An attribute is a special form by its own name, whatever it is an attribute of. -/
theorem isSpecialForm_attribute {line : Nat} {value usage : Tree} {attr : String} {text : List Char}
    (htext : Source.unparse? (.node .attribute line [value, .text attr, usage]) = some text)
    (hattr : '.' ∉ attr.toList) :
    Census.isSpecialForm (.node .attribute line [value, .text attr, usage]) =
      Catalog.specialForms.contains attr := by
  refine isSpecialForm_of_endsInName htext hattr ?_
  have hprinted : Source.unparse? (.node .attribute line [value, .text attr, usage]) = (do
      let v ← Source.operand value (Source.render value)
        (Source.Place.top.asking Source.Precedence.atom)
      pure (v ++ (if Source.isWholeConstant value then [' '] else []) ++ '.' :: attr.toList)) := rfl
  rw [hprinted, Option.bind_eq_bind, Option.bind_eq_some_iff] at htext
  obtain ⟨before, -, htext⟩ := htext
  cases htext
  rw [Census.endsInName, Bool.or_eq_true, List.isSuffixOf_iff_suffix]
  exact Or.inr (List.suffix_append _ _)

variable (c : Context) {line : Nat} {func : Tree} {args keywords : List Tree}

theorem exists_functionCall_of_call
    (hcallee : ∀ f ∈ (Tree.node .call line [func, .list args, .list keywords]).callee?,
      (Source.unparse? f).isSome = true) :
    ∃ part,
      Catalog.functionCall c (.node .call line [func, .list args, .list keywords]) = .ok part ∧
        part.length =
          if !(args.isEmpty && keywords.isEmpty) && !Catalog.isDecorator c &&
              !Census.isSpecialForm func
            then 1 + (if 2 ≤ args.length then 1 else 0) else 0 := by
  cases hgiven : args.isEmpty && keywords.isEmpty with
  | true => exact ⟨[], by rw [Catalog.functionCall, if_pos hgiven], rfl⟩
  | false =>
      rw [Tree.callee?, hgiven] at hcallee
      obtain ⟨text, htext⟩ := Option.isSome_iff_exists.mp (hcallee func rfl)
      rw [Catalog.functionCall, hgiven, if_neg Bool.false_ne_true, htext]
      dsimp only
      rw [contains_lastName_eq htext]
      cases Census.isSpecialForm func with
      | true => exact ⟨[], rfl, by rw [Bool.not_true, Bool.and_false]; rfl⟩
      | false =>
          cases Catalog.isDecorator c with
          | true => exact ⟨[], rfl, rfl⟩
          | false =>
              rcases args with _ | ⟨first, _ | ⟨second, rest⟩⟩
              · exact ⟨_, rfl, rfl⟩
              · exact ⟨_, rfl, rfl⟩
              · exact ⟨_, rfl, by simp⟩

/-- A node of a program is a decorator for a strategy if it is one below the root. -/
theorem isDecorator_eq (filePath : String) (ancestors : List Ancestor) {v : Visit}
    (habove : v.above ≠ []) :
    Catalog.isDecorator ⟨filePath, ancestors ++ v.above⟩ = Census.isDecorator v := by
  rw [Catalog.isDecorator, Context.parent?, List.getLast?_append_of_ne_nil _ habove,
    Census.isDecorator]
  cases v.above.getLast? <;> rfl

theorem above_ne_nil_of_isKind_call {t : Tree} (ht : IsWellFormed .module t) {v : Visit}
    (hv : v ∈ t.visits) (hcall : v.node.isKind .call = true) : v.above ≠ [] := by
  intro habove
  have hroot := Tree.nodeAt?_of_mem_visits hv
  rw [Visit.position, habove, List.map_nil, Tree.nodeAt?, Option.ite_none_right_eq_some] at hroot
  obtain ⟨kind, line, fields, rfl, hkind⟩ := ht.exists_node
  rw [← Option.some.inj hroot.2] at hcall
  obtain rfl : kind = .call := Option.some.inj (of_decide_eq_true hcall)
  cases hkind

theorem exists_functionCall_of_mem_visits {t : Tree} (ht : IsWellFormed .module t) {v : Visit}
    (hv : v ∈ t.visits)
    (hcallee : ∀ func ∈ v.node.callee?, (Source.unparse? func).isSome = true) :
    ∃ part, Catalog.functionCall ⟨c.filePath, c.ancestors ++ v.above⟩ v.node = .ok part ∧
      part.length = Census.functionCall v := by
  rw [Census.functionCall, Census.isPlainCall]
  by_cases hkind : v.node.isKind .call = true
  · obtain ⟨sort, hnode⟩ := Tree.exists_isWellFormed_of_nodeAt? ht (Tree.nodeAt?_of_mem_visits hv)
    rw [← isDecorator_eq c.filePath c.ancestors (above_ne_nil_of_isKind_call ht hv hkind), hkind,
      Bool.true_and]
    obtain ⟨line, func, args, keywords, hcall⟩ := hnode.call hkind
    rw [hcall] at hcallee ⊢
    exact exists_functionCall_of_call _ hcallee
  · have hnone : v.node.callee? = none := by
      refine Option.eq_none_iff_forall_not_mem.mpr fun func hfunc => hkind ?_
      obtain ⟨line, args, keywords, hcall, -⟩ := Tree.exists_of_callee? hfunc
      rw [hcall]
      rfl
    exact ⟨[], Catalog.functionCall_of_callee? hnone, by simp [hkind]⟩

end Calls

/-- A walk with a strategy for operators, truth values or conditions finds just the mutations that
the census of the program counts, node by node.  One with the strategy for calls does so if all that
is called has a text. -/
theorem walk_finds_what_census_counts {t : Tree} (ht : IsWellFormed .module t) (c : Context) :
    FindsExactly .arithmetic (fun v => Census.arithmetic v.node) c t ∧
      FindsExactly .comparison (fun v => Census.comparison v.node) c t ∧
      FindsExactly .boolean (fun v => Census.boolean v.node) c t ∧
      FindsExactly .conditional (fun v => Census.conditional v.node) c t ∧
      ((∀ v ∈ t.visits, ∀ func ∈ v.node.callee?, (Source.unparse? func).isSome = true) →
        FindsExactly .functionCall Census.functionCall c t) :=
  ⟨findsExactly_of_isWellFormed ht (fun _ _ => rfl) fun c => length_arithmetic c,
    findsExactly_of_isWellFormed ht (fun _ _ => rfl) fun c => length_comparison c,
    findsExactly_of_isWellFormed ht (fun _ _ => rfl) fun c => length_boolean c,
    findsExactly_of_isWellFormed ht (fun _ _ => rfl) fun c => length_conditional c,
    fun hcallees => findsExactly_of_forall_visits fun v hv =>
      exists_functionCall_of_mem_visits c ht hv (hcallees v hv)⟩

/-- The name in a program's third line. -/
def thirdLineName (id : String) : Tree := .node .name 3 [.text id, .node (.usage .load) 0 []]

/-- A sum that is guarded by what its larger operand is compared with:
`return a + b if max(a, b) > 0 else type(a)`. -/
def guardedSum : Tree :=
  .node .returnStatement 3 [.node .ifExp 3
    [.node .compare 3 [.node .call 3
        [thirdLineName "max", .list [thirdLineName "a", thirdLineName "b"], .list []],
      .list [.node (.comparator .gt) 0 []], .list [Catalog.constantAt 3 (.int 0)]],
    .node .binOp 3 [thirdLineName "a", .node (.binary .add) 0 [], thirdLineName "b"],
    .node .call 3 [thirdLineName "type", .list [thirdLineName "a"], .list []]]]

/-- The guarded sum in a function `total` with the decorator `cached(8)`. -/
def decoratedTotal : Tree :=
  .node .module 0 [.list [.node .functionDef 2
    [.text "total",
      .node .arguments 0 [.list [],
        .list [.node .arg 2 [.text "a", .absent], .node .arg 2 [.text "b", .absent]],
        .absent, .list [], .list [], .absent, .list []],
      .list [guardedSum],
      .list [.node .call 1 [.node .name 1 [.text "cached", .node (.usage .load) 0 []],
        .list [Catalog.constantAt 1 (.int 8)], .list []]],
      .absent]]]

/-- Of the three calls only that of `max` is counted. -/
theorem decorated_total_matches_census :
    IsWellFormed .module decoratedTotal ∧
      (∀ v ∈ decoratedTotal.visits, ∀ func ∈ v.node.callee?,
        (Source.unparse? func).isSome = true) ∧
      ∃ found, walk [.functionCall] ⟨"m.py", []⟩ decoratedTotal = .ok found ∧ found.length = 2 := by
  have ht : IsWellFormed .module decoratedTotal := by decide +kernel
  have hcallees : ∀ v ∈ decoratedTotal.visits, ∀ func ∈ v.node.callee?,
      (Source.unparse? func).isSome = true := by decide +kernel
  obtain ⟨-, -, -, -, hcalls⟩ := walk_finds_what_census_counts ht ⟨"m.py", []⟩
  obtain ⟨parts, hwalk, hlength, -⟩ := hcalls hcallees
  exact ⟨ht, hcallees, parts.flatten, hwalk, hlength.trans (by decide +kernel)⟩

end MutationTesting
