import MutationTesting.Proofs.Mutation.Application
import MutationTesting.Proofs.Source.Misreading

/-!
# Programs that are misread

The text of a program that has a negative number at the head of a power, call or attribute is the
text of another program.  If that one is read as it stands, the first one is not.
-/

namespace MutationTesting.Source

open MutationTesting.Tree (Unsigns negation)

/-- Whether a tree has, somewhere inside, an expression that begins with a negative number, and
another tree has the negated expression there.  The places on the way ask for no more strength than
a sign has. -/
inductive ReadsAs : Tree → Tree → Prop
  | primary {line : Nat} {e e' : Tree} (hsign : Unsigns e e')
      (happlied : e.isKind .constant = false) : ReadsAs e (negation line e')
  | power {line line' opLine : Nat} {opFields : List Tree} {base base' exponent : Tree}
      (hsign : Unsigns base base') :
      ReadsAs (.node .binOp line [base, .node (.binary .pow) opLine opFields, exponent])
        (negation line'
          (.node .binOp line [base', .node (.binary .pow) opLine opFields, exponent]))
  -- expressions
  | leftOperand {line opLine : Nat} {op : BinaryOperator} {opFields : List Tree} {t t' right : Tree}
      (hop : op ≠ .pow) (ht : ReadsAs t t') :
      ReadsAs (.node .binOp line [t, .node (.binary op) opLine opFields, right])
        (.node .binOp line [t', .node (.binary op) opLine opFields, right])
  | rightOperand {line opLine : Nat} {op : BinaryOperator} {opFields : List Tree} {left t t' : Tree}
      (hop : op ≠ .pow) (ht : ReadsAs t t') :
      ReadsAs (.node .binOp line [left, .node (.binary op) opLine opFields, t])
        (.node .binOp line [left, .node (.binary op) opLine opFields, t'])
  | unaryOperand {line opLine : Nat} {op : UnaryOperator} {opFields : List Tree} {t t' : Tree}
      (ht : ReadsAs t t') :
      ReadsAs (.node .unaryOp line [.node (.unary op) opLine opFields, t])
        (.node .unaryOp line [.node (.unary op) opLine opFields, t'])
  | compared {line : Nat} {operators operands : List Tree} {t t' : Tree} (ht : ReadsAs t t') :
      ReadsAs (.node .compare line [t, .list operators, .list operands])
        (.node .compare line [t', .list operators, .list operands])
  | comparedWith {line : Nat} {operators before after : List Tree} {left t t' : Tree}
      (ht : ReadsAs t t') :
      ReadsAs (.node .compare line [left, .list operators, .list (before ++ t :: after)])
        (.node .compare line [left, .list operators, .list (before ++ t' :: after)])
  | argument {line : Nat} {before after keywords : List Tree} {func t t' : Tree}
      (ht : ReadsAs t t') :
      ReadsAs (.node .call line [func, .list (before ++ t :: after), .list keywords])
        (.node .call line [func, .list (before ++ t' :: after), .list keywords])
  | listItem {line : Nat} {before after : List Tree} {usage t t' : Tree} (ht : ReadsAs t t') :
      ReadsAs (.node .list line [.list (before ++ t :: after), usage])
        (.node .list line [.list (before ++ t' :: after), usage])
  -- statements
  | expressionStatement {line : Nat} {t t' : Tree} (ht : ReadsAs t t') :
      ReadsAs (.node .expressionStatement line [t]) (.node .expressionStatement line [t'])
  | assign {line : Nat} {targets : List Tree} {t t' : Tree} (ht : ReadsAs t t') :
      ReadsAs (.node .assign line [.list targets, t]) (.node .assign line [.list targets, t'])
  | augmentedAssign {line opLine : Nat} {op : BinaryOperator} {opFields : List Tree}
      {target t t' : Tree} (ht : ReadsAs t t') :
      ReadsAs (.node .augmentedAssign line [target, .node (.binary op) opLine opFields, t])
        (.node .augmentedAssign line [target, .node (.binary op) opLine opFields, t'])
  | returned {line : Nat} {t t' : Tree} (ht : ReadsAs t t') :
      ReadsAs (.node .returnStatement line [t]) (.node .returnStatement line [t'])
  | condition {line : Nat} {body : List Tree} {orelse t t' : Tree} (ht : ReadsAs t t') :
      ReadsAs (.node .ifStatement line [t, .list body, orelse])
        (.node .ifStatement line [t', .list body, orelse])
  -- blocks
  | branch {line : Nat} {before after : List Tree} {test orelse t t' : Tree} (ht : ReadsAs t t') :
      ReadsAs (.node .ifStatement line [test, .list (before ++ t :: after), orelse])
        (.node .ifStatement line [test, .list (before ++ t' :: after), orelse])
  | loop {line : Nat} {before after orelse : List Tree} {target iter t t' : Tree}
      (ht : ReadsAs t t') :
      ReadsAs (.node .forLoop line [target, iter, .list (before ++ t :: after), .list orelse])
        (.node .forLoop line [target, iter, .list (before ++ t' :: after), .list orelse])
  | function {line : Nat} {name : String} {before after decorators : List Tree}
      {params returns t t' : Tree} (ht : ReadsAs t t') :
      ReadsAs (.node .functionDef line
          [.text name, params, .list (before ++ t :: after), .list decorators, returns])
        (.node .functionDef line
          [.text name, params, .list (before ++ t' :: after), .list decorators, returns])
  | module {line : Nat} {before after : List Tree} {t t' : Tree} (ht : ReadsAs t t') :
      ReadsAs (.node .module line [.list (before ++ t :: after)])
        (.node .module line [.list (before ++ t' :: after)])

section Equations

variable (line opLine : Nat) (opFields : List Tree) (p : Place)

theorem render_binOp (op : BinaryOperator) (left right : Tree) :
    render (.node .binOp line [left, .node (.binary op) opLine opFields, right]) p = (do
      let l ← operand left (render left)
        (p.asking (if op = .pow then op.precedence.next else op.precedence))
      let r ← operand right (render right)
        (p.asking (if op = .pow then op.precedence else op.precedence.next))
      pure (bracketed p op.precedence (l ++ ' ' :: op.symbol.toList ++ ' ' :: r))) := rfl

theorem render_unaryOp (op : UnaryOperator) (value : Tree) :
    render (.node .unaryOp line [.node (.unary op) opLine opFields, value]) p = (do
      let v ← operand value (render value) (p.asking op.precedence)
      pure (bracketed p op.precedence (op.symbol.toList ++ v))) := rfl

theorem render_compare (left : Tree) (operators operands : List Tree) :
    render (.node .compare line [left, .list operators, .list operands]) p = (do
      let l ← operand left (render left) (p.asking Precedence.comparison.next)
      let rest ← printAll (renderers operands) (p.asking Precedence.comparison.next)
      let marks := comparatorTexts operators
      pure (bracketed p Precedence.comparison
        (l ++ (marks.zipWith (fun m r => ' ' :: m ++ ' ' :: r) rest).flatten))) := rfl

theorem render_list (items : List Tree) (usage : Tree) :
    render (.node .list line [.list items, usage]) p =
      (commaSeparated (renderers items) p.plain).map fun content => '[' :: content ++ [']'] := rfl

theorem render_expressionStatement (value : Tree) :
    render (.node .expressionStatement line [value]) p =
      (operand value (render value) (p.asking Precedence.yield)).map (startLine p "" ++ ·) := rfl

theorem render_assign (targets : List Tree) (value : Tree) :
    render (.node .assign line [.list targets, value]) p = (do
      let sides ← printAll (renderers targets) (p.asking Precedence.tuple)
      let v ← render value p.plain
      pure (startLine p "" ++ sides.flatMap (fun s => s ++ " = ".toList) ++ v)) := rfl

theorem render_augmentedAssign (op : BinaryOperator) (target value : Tree) :
    render (.node .augmentedAssign line [target, .node (.binary op) opLine opFields, value]) p =
      (do
        let t ← render target p.plain
        let v ← render value p.plain
        pure (startLine p "" ++ t ++ ' ' :: op.symbol.toList ++ "= ".toList ++ v)) := rfl

theorem render_returnStatement (value : Tree) :
    render (.node .returnStatement line [value]) p =
      withOptional (startLine p "return") " " (ifPresent value (render value)) p := rfl

theorem render_ifStatement (test orelse : Tree) (body : List Tree) :
    render (.node .ifStatement line [test, .list body, orelse]) p = (do
      let t ← render test p.plain
      let branch ← withBlock (startLine p "if " ++ t) (inSequence (renderers body)) p
      let other ← renderElse orelse p
      pure (branch ++ other)) := rfl

theorem render_forLoop (target iter : Tree) (body orelse : List Tree) :
    render (.node .forLoop line [target, iter, .list body, .list orelse]) p =
      loopText "for " target (render target) (render iter) (renderers body) (renderers orelse) p :=
  rfl

theorem render_functionDef (name : String) (params returns : Tree) (body decorators : List Tree) :
    render (.node .functionDef line [.text name, params, .list body, .list decorators, returns]) p =
      functionText "def " name (render params) (renderBody body) (renderers decorators)
        (ifPresent returns (render returns)) p := rfl

theorem renderBody_expressionStatement (value : Tree) (rest : List Tree) :
    renderBody (.node .expressionStatement line [value] :: rest) p = (do
      let first ←
        if isTextConstant value then some (documentation value)
        else operand value (render value) (p.asking Precedence.yield)
      let others ← printAll (renderers rest) p.plain
      pure (startLine p "" ++ first ++ others.flatten)) := rfl

theorem render_module (body : List Tree) :
    render (.node .module line [.list body]) p = renderBody body p := rfl

end Equations

/-- Whether two trees are printed alike wherever no more strength is asked for than a sign has. -/
def PrintsAlike (t t' : Tree) : Prop :=
  ∀ p : Place, p.precedence ≤ Precedence.factor → render t p = render t' p

theorem plain_le (p : Place) : p.plain.precedence ≤ Precedence.factor :=
  (by decide : Precedence.test ≤ Precedence.factor)

theorem renderers_append (left right : List Tree) :
    renderers (left ++ right) = renderers left ++ renderers right := by
  induction left with
  | nil => rfl
  | cons t rest ih => rw [List.cons_append, renderers, renderers, ih, List.cons_append]

/-- Whether a statement is the text that documents what it comes first in. -/
def IsDocumentation (t : Tree) : Prop :=
  ∃ line value, t = .node .expressionStatement line [value] ∧ isTextConstant value = true

/-- Any other statement is printed first in a body as it is elsewhere. -/
theorem renderBody_cons {t : Tree} (hplain : ¬ IsDocumentation t) (rest : List Tree) (p : Place) :
    renderBody (t :: rest) p = (do
      let first ← render t p
      let others ← printAll (renderers rest) p.plain
      pure (first ++ others.flatten)) := by
  cases t with
  | node kind line fields =>
      by_cases hkind : kind = .expressionStatement
      · subst hkind
        rcases fields with _ | ⟨value, _ | ⟨_, _⟩⟩
        · rfl
        · have htext : isTextConstant value = false := by
            rw [← Bool.not_eq_true]
            exact fun htext => hplain ⟨line, value, rfl, htext⟩
          rw [renderBody_expressionStatement, htext, render_expressionStatement]
          cases operand value (render value) (p.asking Precedence.yield) <;> rfl
        · rfl
      · cases kind <;> first | rfl | exact absurd rfl hkind
  | _ => rfl

section Lists

variable {t t' : Tree} {p : Place} (halike : PrintsAlike t t') (before after : List Tree)

include halike

theorem printAll_of_alike (hplace : p.precedence ≤ Precedence.factor) :
    printAll (renderers (before ++ t :: after)) p =
      printAll (renderers (before ++ t' :: after)) p := by
  induction before with
  | nil =>
      simp only [List.nil_append, renderers, printAll, List.mapM_cons]
      rw [halike p hplace]
  | cons first rest ih =>
      simp only [List.cons_append, renderers, printAll, List.mapM_cons] at ih ⊢
      rw [ih]

theorem inSequence_of_alike (hplace : p.precedence ≤ Precedence.factor) :
    inSequence (renderers (before ++ t :: after)) p =
      inSequence (renderers (before ++ t' :: after)) p := by
  cases before with
  | nil =>
      simp only [List.nil_append, renderers, inSequence]
      rw [halike p hplace]
  | cons first rest =>
      simp only [List.cons_append, renderers, inSequence]
      rw [printAll_of_alike halike rest after (plain_le p)]

theorem renderBody_of_alike (ht : ¬ IsDocumentation t) (ht' : ¬ IsDocumentation t')
    (hplace : p.precedence ≤ Precedence.factor) :
    renderBody (before ++ t :: after) p = renderBody (before ++ t' :: after) p := by
  cases before with
  | nil =>
      rw [List.nil_append, List.nil_append, renderBody_cons ht, renderBody_cons ht',
        halike p hplace]
  | cons first rest =>
      have hrest := printAll_of_alike halike rest after (plain_le p)
      rw [List.cons_append, List.cons_append]
      by_cases hdocument : IsDocumentation first
      · obtain ⟨line, value, rfl, htext⟩ := hdocument
        rw [renderBody_expressionStatement, renderBody_expressionStatement, hrest]
      · rw [renderBody_cons hdocument, renderBody_cons hdocument, hrest]

end Lists

namespace ReadsAs

variable {t t' : Tree}

theorem isList (hreads : ReadsAs t t') : isList t = false ∧ isList t' = false := by
  cases hreads with
  | primary hsign => exact ⟨(isList_of_unsigns hsign).1, rfl⟩
  | _ => exact ⟨rfl, rfl⟩

theorem isTextConstant (hreads : ReadsAs t t') :
    isTextConstant t = false ∧ isTextConstant t' = false := by
  cases hreads with
  | primary hsign happlied =>
      cases hsign with
      | constant => cases happlied
      | _ => exact ⟨rfl, rfl⟩
  | _ => exact ⟨rfl, rfl⟩

theorem not_isDocumentation (hreads : ReadsAs t t') :
    ¬ IsDocumentation t ∧ ¬ IsDocumentation t' := by
  constructor
  · rintro ⟨line, value, rfl, htext⟩
    cases hreads with
    | primary hsign => cases hsign
    | expressionStatement hvalue => simp [hvalue.isTextConstant.1] at htext
  · rintro ⟨line, value, rfl, htext⟩
    cases hreads with
    | expressionStatement hvalue => simp [hvalue.isTextConstant.2] at htext

theorem isPresent (hreads : ReadsAs t t') : isPresent t = true ∧ isPresent t' = true := by
  cases hreads with
  | primary hsign => cases hsign <;> exact ⟨rfl, rfl⟩
  | _ => exact ⟨rfl, rfl⟩

/-- What reads as something else is printed like it. -/
theorem printsAlike (hreads : ReadsAs t t') : PrintsAlike t t' := by
  induction hreads with
  | primary hsign => exact fun p hplace => render_unsigned_primary hsign _ hplace
  | power hsign => exact fun p hplace => render_unsigned_power hsign _ _ _ _ _ hplace
  | @leftOperand line opLine op opFields t t' right hop ht ih =>
      intro p _
      have hasked : op.precedence ≤ Precedence.factor := by
        cases op <;> first | decide | exact absurd rfl hop
      rw [render_binOp, render_binOp, operand_of_isList ht.isList.1, operand_of_isList ht.isList.2,
        if_neg hop, ih (p.asking op.precedence) hasked]
  | @rightOperand line opLine op opFields left t t' hop ht ih =>
      intro p _
      have hasked : op.precedence.next ≤ Precedence.factor := by
        cases op <;> first | decide | exact absurd rfl hop
      rw [render_binOp, render_binOp, operand_of_isList ht.isList.1, operand_of_isList ht.isList.2,
        if_neg hop, if_neg hop, ih (p.asking op.precedence.next) hasked]
  | @unaryOperand line opLine op opFields t t' ht ih =>
      intro p _
      have hasked : op.precedence ≤ Precedence.factor := by cases op <;> decide
      rw [render_unaryOp, render_unaryOp, operand_of_isList ht.isList.1,
        operand_of_isList ht.isList.2, ih (p.asking op.precedence) hasked]
  | @compared line operators operands t t' ht ih =>
      intro p _
      have hasked : Precedence.comparison.next ≤ Precedence.factor := by decide
      rw [render_compare, render_compare, operand_of_isList ht.isList.1,
        operand_of_isList ht.isList.2, ih (p.asking Precedence.comparison.next) hasked]
  | @comparedWith line operators before after left t t' ht ih =>
      intro p _
      have hasked : Precedence.comparison.next ≤ Precedence.factor := by decide
      rw [render_compare, render_compare,
        printAll_of_alike (p := p.asking Precedence.comparison.next) ih before after hasked]
  | @argument line before after keywords func t t' ht ih =>
      intro p _
      rw [render_call, render_call, ← renderers_append, ← renderers_append, List.append_assoc,
        List.append_assoc, List.cons_append, List.cons_append, commaSeparated, commaSeparated,
        printAll_of_alike ih before (after ++ keywords) (plain_le p)]
  | @listItem line before after usage t t' ht ih =>
      intro p _
      rw [render_list, render_list, commaSeparated, commaSeparated,
        printAll_of_alike ih before after (plain_le p)]
  | @expressionStatement line t t' ht ih =>
      intro p _
      have hasked : Precedence.yield ≤ Precedence.factor := by decide
      rw [render_expressionStatement, render_expressionStatement, operand_of_isList ht.isList.1,
        operand_of_isList ht.isList.2, ih (p.asking Precedence.yield) hasked]
  | @assign line targets t t' ht ih =>
      intro p _
      rw [render_assign, render_assign, ih p.plain (plain_le p)]
  | @augmentedAssign line opLine op opFields target t t' ht ih =>
      intro p _
      rw [render_augmentedAssign, render_augmentedAssign, ih p.plain (plain_le p)]
  | @returned line t t' ht ih =>
      intro p _
      rw [render_returnStatement, render_returnStatement, ifPresent, ifPresent,
        if_pos ht.isPresent.1, if_pos ht.isPresent.2, withOptional, withOptional,
        ih p.plain (plain_le p)]
  | @condition line body orelse t t' ht ih =>
      intro p _
      rw [render_ifStatement, render_ifStatement, ih p.plain (plain_le p)]
  | @branch line before after test orelse t t' ht ih =>
      intro p _
      simp only [render_ifStatement, withBlock,
        inSequence_of_alike (p := p.deeper) ih before after (plain_le p)]
  | @loop line before after orelse target iter t t' ht ih =>
      intro p _
      simp only [render_forLoop, loopText, withBlock,
        inSequence_of_alike (p := p.deeper) ih before after (plain_le p)]
  | @function line name before after decorators params returns t t' ht ih =>
      intro p _
      simp only [render_functionDef, functionText, withBlock,
        renderBody_of_alike (p := p.deeper) ih before after ht.not_isDocumentation.1
          ht.not_isDocumentation.2 (plain_le p)]
  | @module line before after t t' ht ih =>
      intro p hplace
      rw [render_module, render_module, renderBody_of_alike ih before after
        ht.not_isDocumentation.1 ht.not_isDocumentation.2 hplace]

/-- Two nodes of one shape have fields of one shape. -/
theorem shape_field_eq {kind : Kind} {line line' : Nat} (place : Nat) {fields fields' : List Tree}
    (hshape : (Tree.node kind line fields).shape = (Tree.node kind line' fields').shape) :
    fields[place]?.map Tree.shape = fields'[place]?.map Tree.shape := by
  rw [Tree.shape, Tree.shape, Tree.node.injEq, Tree.shapes_eq_map, Tree.shapes_eq_map] at hshape
  rw [← List.getElem?_map, ← List.getElem?_map, hshape.2.2]

theorem shape_item_eq {before after : List Tree}
    (hshape : (Tree.list (before ++ t' :: after)).shape =
      (Tree.list (before ++ t :: after)).signed.shape) : t'.shape = t.signed.shape := by
  rw [Tree.signed, Tree.signeds_eq_map, Tree.shape, Tree.shape, Tree.list.injEq,
    Tree.shapes_eq_map, Tree.shapes_eq_map, List.map_append, List.map_append, List.map_append,
    List.map_cons, List.map_cons, List.map_cons] at hshape
  have hlength : (before.map Tree.shape).length =
      ((before.map Tree.signed).map Tree.shape).length := by
    simp
  exact (List.cons.inj (List.append_inj_right hshape hlength)).1

/-- What is read has another shape than what was written. -/
theorem shape_ne (hreads : ReadsAs t t') : t'.shape ≠ t.signed.shape := by
  -- below a common node the shapes differ in the one field or item that differs
  have hfield : ∀ {kind line fields fields'} (place : Nat) {x x' : Tree}, kind ≠ .constant →
      fields[place]? = some x → fields'[place]? = some x' → x'.shape ≠ x.signed.shape →
      (Tree.node kind line fields').shape ≠ (Tree.node kind line fields).signed.shape := by
    intro kind line fields fields' place x x' hkind hx hx' hne hshape
    rw [Tree.signed_node hkind] at hshape
    have hsame := shape_field_eq place hshape
    rw [List.getElem?_map, hx, hx'] at hsame
    exact hne (Option.some.inj hsame)
  induction hreads with
  | primary hsign happlied =>
      cases hsign with
      | constant => cases happlied
      | _ => intro hshape; nomatch hshape
  | power => intro hshape; nomatch hshape
  | expressionStatement _ ih | returned _ ih | compared _ ih | condition _ ih | leftOperand _ _ ih =>
      exact hfield 0 (by simp) rfl rfl ih
  | unaryOperand _ ih | assign _ ih => exact hfield 1 (by simp) rfl rfl ih
  | rightOperand _ _ ih | augmentedAssign _ ih => exact hfield 2 (by simp) rfl rfl ih
  | listItem _ ih | module _ ih =>
      exact hfield 0 (by simp) rfl rfl fun hlist => ih (shape_item_eq hlist)
  | argument _ ih | branch _ ih =>
      exact hfield 1 (by simp) rfl rfl fun hlist => ih (shape_item_eq hlist)
  | comparedWith _ ih | loop _ ih | function _ ih =>
      exact hfield 2 (by simp) rfl rfl fun hlist => ih (shape_item_eq hlist)

end ReadsAs

/-- Whether a program is read as it stands when it is printed. -/
def RoundTrips (t : Tree) : Prop :=
  ∃ text read, unparseText? t = some text ∧ parse? text = some read ∧ read.shape = t.shape

/-- A mutant with a negative number at the head of a power, a call or an attribute is not the program
that the mutation makes, even if negative numbers are taken for negations: its text is that of
another program, and if that one is read as it stands, it is what is read. -/
theorem negative_number_misread {m : Mutation} {file : SourceFile} {strict applied : Bool}
    {patched misread : Tree} {text : String} (happly : m.apply file.tree = .ok (patched, applied))
    (hreads : ReadsAs patched misread) (hrender : m.render file strict = .ok text)
    (htrip : RoundTrips misread) :
    ∃ read, parse? text = some read ∧ read.shape = misread.shape ∧
      read.shape ≠ patched.signed.shape := by
  have hkept : strict = false ∨ applied = true := by
    cases strict with
    | false => exact Or.inl rfl
    | true =>
        cases applied with
        | true => exact Or.inr rfl
        | false =>
            rw [Mutation.render, happly] at hrender
            cases hrender
  rw [Mutation.render_of_apply_ok happly hkept] at hrender
  have hwritten := (Mutation.unparseText?_of_checkedText hrender).1
  obtain ⟨text', read, hmisread, hread, hshape⟩ := htrip
  have hsame : unparseText? patched = unparseText? misread := by
    rw [unparseText?, unparseText?, unparse?, unparse?, hreads.printsAlike Place.top (by decide)]
  rw [hsame, hmisread, Option.some_inj] at hwritten
  subst hwritten
  exact ⟨read, hread, hshape, hshape ▸ hreads.shape_ne⟩

/-- The program `x = value`. -/
def assignment (value : Tree) : Tree :=
  .node .module 0 [.list [.node .assign 1
    [.list [.node .name 1 [.text "x", .node (.usage .store) 0 []]], value]]]

/-- The square of a number. -/
def squareOf (n : Int) : Tree :=
  .node .binOp 1 [Catalog.constantAt 1 (.int n), .node (.binary .pow) 0 [],
    Catalog.constantAt 1 (.int 2)]

/-- A file with the program `x = 0 ** 2`. -/
def squareOfZero : SourceFile := ⟨"m.py", assignment (squareOf 0), none, "x = 0 ** 2"⟩

/-- The mutation of zero to minus one. -/
def decrementedZero : Mutation :=
  Strategy.literal.propose ⟨"m.py", []⟩ (Catalog.constantAt 1 (.int 0))
    (Catalog.constantAt 1 (.int (-1))) "0 to -1 (decrement)"

theorem apply_decrementedZero :
    decrementedZero.apply squareOfZero.tree = .ok (assignment (squareOf (-1)), true) := by
  decide +kernel

theorem render_decrementedZero :
    decrementedZero.render squareOfZero true = .ok "x = -1 ** 2" := by decide +kernel

theorem roundTrips_negated_square : RoundTrips (assignment (negation 1 (squareOf 1))) :=
  ⟨"x = -1 ** 2", assignment (negation 1 (squareOf 1)), by decide +kernel, by decide +kernel, rfl⟩

/-- The square of minus one is read as the negated square of one. -/
theorem square_of_decremented_zero_misread :
    RoundTrips (assignment (negation 1 (squareOf 1))) ∧
      ∃ read, parse? "x = -1 ** 2" = some read ∧
        read.shape = (assignment (negation 1 (squareOf 1))).shape ∧
        read.shape ≠ (assignment (squareOf (-1))).signed.shape :=
  ⟨roundTrips_negated_square, negative_number_misread apply_decrementedZero
    (@ReadsAs.module _ [] _ _ _ (.assign (.power (.constant (by decide))))) render_decrementedZero
    roundTrips_negated_square⟩

/-- A program that is read as it stands can have a mutant that is not. -/
theorem mutant_read_as_other_program :
    ¬ ∀ (strategies : List Strategy) (file : SourceFile) (found : List Mutation),
      parse? file.source = some file.tree → RoundTrips file.tree →
      walk strategies ⟨file.path, []⟩ file.tree = .ok found → ∀ m ∈ found,
      ∀ strict patched applied text, m.apply file.tree = .ok (patched, applied) →
        m.render file strict = .ok text →
        ∃ read, parse? text = some read ∧ read.shape = patched.signed.shape := by
  intro hevery
  have hparse : parse? squareOfZero.source = some squareOfZero.tree := by decide +kernel
  have htrip : RoundTrips squareOfZero.tree :=
    ⟨"x = 0 ** 2", squareOfZero.tree, by decide +kernel, hparse, rfl⟩
  have hproposed : decrementedZero ∈
      (walk [.literal] ⟨"m.py", []⟩ squareOfZero.tree).toOption.getD [] := by decide +kernel
  cases hwalk : walk [.literal] ⟨"m.py", []⟩ squareOfZero.tree with
  | error e =>
      rw [hwalk] at hproposed
      cases hproposed
  | ok found =>
      rw [hwalk] at hproposed
      obtain ⟨read, hread, hshape⟩ := hevery [.literal] squareOfZero found hparse htrip hwalk
        decrementedZero hproposed true _ true _ apply_decrementedZero render_decrementedZero
      have hmisread : parse? "x = -1 ** 2" = some (assignment (negation 1 (squareOf 1))) := by
        decide +kernel
      rw [hmisread] at hread
      cases hread
      revert hshape
      decide +kernel

end MutationTesting.Source
