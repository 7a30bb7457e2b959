import MutationTesting.Proofs.Mutation.Generation
import MutationTesting.Proofs.Tree.WellFormed

/-!
# Mutants are well-formed

Every strategy proposes an expression in the place of an expression, and a statement or a block in
the place of a statement.  Applying what a walk finds therefore gives a tree of the grammar again, in
which no block has become empty.
-/

namespace MutationTesting

open MutationTesting.Tree (Position IsWellFormed Suits HasBlocksOf asItems conforms fieldsConform
  isWellFormed_node_iff)

/-- Whether a tree may come in the place of an expression or a statement: it suits its sort, and all
of its blocks come from there. -/
structure Tree.Admissible (new old : Tree) (sort : NodeSort) : Prop where
  replaceable : sort = .expression ∨ sort = .statement
  suits : Suits sort new
  blocks : ∀ t ∈ asItems new, HasBlocksOf t old

namespace Tree.Admissible

theorem of_expression {new old : Tree} {sort : NodeSort} (hsort : sort = .expression)
    (hnew : IsWellFormed .expression new) : new.Admissible old sort := by
  subst hsort
  refine ⟨Or.inl rfl, Or.inl hnew, ?_⟩
  obtain ⟨kind, line, fields, rfl, -⟩ := hnew.exists_node
  exact List.forall_mem_singleton.mpr (hasBlocksOf_of_isBlockFree hnew rfl old)

/-- A block of a statement may come in the place of the statement. -/
theorem of_block {kind : Kind} {line place : Nat} {fields items : List Tree} {sort : NodeSort}
    (hsort : sort = .statement) (hfield : fields[place]? = some (.list items))
    (hblock : conforms .block (.list items) = true) :
    (Tree.list items).Admissible (.node kind line fields) sort := by
  subst hsort
  refine ⟨Or.inr rfl, Or.inr ⟨rfl, hblock⟩, fun t (ht : t ∈ items) => ?_⟩
  obtain ⟨item, hitem⟩ := List.mem_iff_getElem?.mp ht
  refine hasBlocksOf_slot _ item hfield ?_
  have hstatement : IsWellFormed .statement t := (conforms_list_iff.mp hblock).2 t ht
  obtain ⟨kind', line', fields', rfl, -⟩ := hstatement.exists_node
  rw [slot?, hitem]
  rfl

end Tree.Admissible

namespace Catalog

open MutationTesting.Tree.Admissible

theorem isWellFormed_constantAt (line : Nat) (value : Literal) :
    IsWellFormed .expression (constantAt line value) := rfl

variable {c : Context} {t : Tree} {sort : NodeSort}

theorem arithmetic_admissible (ht : IsWellFormed sort t) :
    ∀ m ∈ arithmetic c t, m.replacement.Admissible t sort := by
  unfold arithmetic
  split
  next line left op opLine opFields right =>
      split
      · exact List.forall_mem_nil _
      next change hchange =>
          obtain ⟨hsort, hfields⟩ := isWellFormed_node_iff.mp ht
          rw [List.forall_mem_cons, List.forall_mem_singleton]
          exact ⟨of_expression hsort (isWellFormed_node_iff.mpr ⟨rfl, hfields⟩),
            of_expression hsort (isWellFormed_constantAt line _)⟩
  · exact List.forall_mem_nil _

theorem mem_comparatorVariants_conforms {before operators : List Tree}
    (hbefore : ∀ x ∈ before, IsWellFormed .comparator x)
    (hoperators : ∀ x ∈ operators, IsWellFormed .comparator x) :
    ∀ variant ∈ comparatorVariants before operators,
      ∀ x ∈ variant.2.2, IsWellFormed .comparator x := by
  induction operators generalizing before with
  | nil => exact List.forall_mem_nil _
  | cons first rest ih =>
      obtain ⟨hfirst, hrest⟩ := List.forall_mem_cons.mp hoperators
      unfold comparatorVariants
      rw [List.forall_mem_append]
      constructor
      · split
        next op line fields =>
            intro variant hvariant
            obtain ⟨op', -, rfl⟩ := List.mem_map.mp hvariant
            rw [List.forall_mem_append, List.forall_mem_cons]
            exact ⟨hbefore, rfl, hrest⟩
        · exact List.forall_mem_nil _
      · refine ih ?_ hrest
        rw [List.forall_mem_append, List.forall_mem_singleton]
        exact ⟨hbefore, hfirst⟩

theorem comparison_admissible (ht : IsWellFormed sort t) :
    ∀ m ∈ comparison c t, m.replacement.Admissible t sort := by
  unfold comparison
  split
  next line left operators operands =>
      intro m hm
      obtain ⟨⟨op, op', changed⟩, hvariant, rfl⟩ := List.mem_map.mp hm
      obtain ⟨hsort, hfields⟩ := isWellFormed_node_iff.mp ht
      simp only [Kind.contents, fieldsConform, Bool.and_eq_true] at hfields
      obtain ⟨hleft, hoperators, hoperands, -⟩ := hfields
      have hchanged := mem_comparatorVariants_conforms (List.forall_mem_nil _)
        (Tree.conforms_list_iff.mp hoperators).2 _ hvariant
      refine of_expression hsort (isWellFormed_node_iff.mpr ⟨rfl, ?_⟩)
      simp only [Kind.contents, fieldsConform, Bool.and_eq_true]
      exact ⟨hleft, Tree.conforms_list_iff.mpr ⟨by simp [Content.many, Content.admits], hchanged⟩,
        hoperands, trivial⟩
  · exact List.forall_mem_nil _

theorem boolean_admissible (ht : IsWellFormed sort t) :
    ∀ m ∈ boolean c t, m.replacement.Admissible t sort := by
  unfold boolean
  split
  case h_6 => exact List.forall_mem_nil _
  all_goals
    obtain ⟨hsort, hfields⟩ := isWellFormed_node_iff.mp ht
    rw [List.forall_mem_singleton]
    refine of_expression hsort ?_
  case h_1 | h_2 => exact isWellFormed_node_iff.mpr ⟨rfl, hfields⟩
  case h_3 | h_4 => exact isWellFormed_constantAt _ _
  case h_5 =>
    simp only [Kind.contents, fieldsConform, Bool.and_eq_true] at hfields
    exact hfields.2.1

theorem isWellFormed_negated {line : Nat} {test : Tree} (htest : IsWellFormed .expression test) :
    IsWellFormed .expression (negated line test) := by
  refine isWellFormed_node_iff.mpr ⟨rfl, ?_⟩
  simp only [Kind.contents, fieldsConform, Bool.and_eq_true]
  exact ⟨rfl, htest, trivial⟩

/-- A branch may be put in the place of its `if`, unless it is missing. -/
theorem branch_admissible {line : Nat} (place : Nat) {fields : List Tree} {branch : Tree}
    (hfield : fields[place]? = some branch) (hbranch : conforms .block branch = true) :
    branch.Admissible (.node .ifStatement line fields) .statement := by
  cases branch with
  | list items => exact of_block rfl hfield hbranch
  | node kind line fields => cases (Tree.conforms_node_iff.mp hbranch).1
  | _ => cases hbranch

/-- An `if` with another condition may be put in its place. -/
theorem condition_admissible {line : Nat} {test test' body orelse : Tree}
    (htest : IsWellFormed .expression test') (hbody : conforms .block body = true)
    (horelse : conforms .statements orelse = true) :
    (Tree.node .ifStatement line [test', body, orelse]).Admissible
      (.node .ifStatement line [test, body, orelse]) .statement := by
  refine ⟨Or.inr rfl, Or.inl (isWellFormed_node_iff.mpr ⟨rfl, ?_⟩), ?_⟩
  · simp only [Kind.contents, fieldsConform, Bool.and_eq_true]
    exact ⟨htest, hbody, horelse, trivial⟩
  · refine List.forall_mem_singleton.mpr (Tree.hasBlocksOf_node ?_ ?_)
    · rintro (_ | place) hblock
      · cases hblock
      · exact ⟨rfl, rfl⟩
    · intro content hcontent item t hslot
      simp only [List.mem_cons, List.not_mem_nil, or_false] at hcontent
      rcases hcontent with rfl | rfl | rfl
      · obtain ⟨_, hsingle, hsort⟩ := Tree.exists_isWellFormed_of_slot? htest hslot
        cases hsingle
        exact Tree.hasBlocksOf_of_isBlockFree hsort rfl _
      · exact Tree.hasBlocksOf_slot 1 _ rfl hslot
      · exact Tree.hasBlocksOf_slot 2 _ rfl hslot

theorem pass_admissible {line : Nat} {old : Tree} :
    (Tree.node .passStatement line []).Admissible old .statement := by
  refine ⟨Or.inr rfl, Or.inl rfl, List.forall_mem_singleton.mpr (Tree.hasBlocksOf_node ?_ ?_)⟩
  · intro place hblock
    cases hblock
  · exact List.forall_mem_nil _

theorem block_of_not_isEmpty {items : List Tree} (hitems : ¬ items.isEmpty = true)
    (hstatements : conforms .statements (.list items) = true) :
    conforms .block (.list items) = true := by
  rw [Tree.conforms_list_iff] at hstatements ⊢
  refine ⟨?_, hstatements.2⟩
  cases items with
  | nil => exact absurd rfl hitems
  | cons first rest => simp [Content.block, Content.admits]

theorem conditional_admissible (ht : IsWellFormed sort t) :
    ∀ m ∈ conditional c t, m.replacement.Admissible t sort := by
  unfold conditional
  split
  next line line' opLine opFields operand body orelse =>
      obtain ⟨rfl, hfields⟩ := isWellFormed_node_iff.mp ht
      simp only [Kind.contents, fieldsConform, Bool.and_eq_true] at hfields
      obtain ⟨htest, hbody, horelse, -⟩ := hfields
      have hoperand := (Tree.conforms_node_iff.mp htest).2
      simp only [Kind.contents, fieldsConform, Bool.and_eq_true] at hoperand
      rw [List.forall_mem_append, List.forall_mem_cons, List.forall_mem_singleton]
      refine ⟨⟨condition_admissible hoperand.2.1 hbody horelse,
        branch_admissible 1 rfl hbody⟩, ?_⟩
      split
      · exact List.forall_mem_nil _
      next helse =>
          rw [List.forall_mem_singleton]
          exact branch_admissible 2 rfl (block_of_not_isEmpty helse horelse)
  next line test body orelse _ =>
      obtain ⟨rfl, hfields⟩ := isWellFormed_node_iff.mp ht
      simp only [Kind.contents, fieldsConform, Bool.and_eq_true] at hfields
      obtain ⟨htest, hbody, horelse, -⟩ := hfields
      rw [List.forall_mem_cons, List.forall_mem_cons, List.forall_mem_singleton]
      refine ⟨condition_admissible (isWellFormed_negated htest) hbody horelse,
        branch_admissible 1 rfl hbody, ?_⟩
      split
      · exact pass_admissible
      next helse => exact branch_admissible 2 rfl (block_of_not_isEmpty helse horelse)
  next line test body orelse =>
      obtain ⟨hsort, hfields⟩ := isWellFormed_node_iff.mp ht
      simp only [Kind.contents, fieldsConform, Bool.and_eq_true] at hfields
      obtain ⟨htest, hbody, horelse, -⟩ := hfields
      rw [List.forall_mem_cons, List.forall_mem_cons, List.forall_mem_singleton]
      refine ⟨of_expression hsort (isWellFormed_node_iff.mpr ⟨rfl, ?_⟩), of_expression hsort hbody,
        of_expression hsort horelse⟩
      simp only [Kind.contents, fieldsConform, Bool.and_eq_true]
      exact ⟨isWellFormed_negated htest, hbody, horelse, trivial⟩
  · exact List.forall_mem_nil _

theorem swappedArguments?_isWellFormed {line : Nat} {func keywords swapped : Tree}
    {args : List Tree}
    (hcall : IsWellFormed .expression (.node .call line [func, .list args, keywords]))
    (hswapped : swappedArguments? line func keywords args = some swapped) :
    IsWellFormed .expression swapped := by
  unfold swappedArguments? at hswapped
  split at hswapped
  next first second rest =>
      cases hswapped
      have hfields := (isWellFormed_node_iff.mp hcall).2
      refine isWellFormed_node_iff.mpr ⟨rfl, ?_⟩
      simp only [Kind.contents, fieldsConform, Bool.and_eq_true] at hfields ⊢
      obtain ⟨hfunc, hargs, hkeywords, -⟩ := hfields
      refine ⟨hfunc, Tree.conforms_list_iff.mpr ⟨rfl, ?_⟩, hkeywords, trivial⟩
      have hitems := (Tree.conforms_list_iff.mp hargs).2
      simp only [List.forall_mem_cons] at hitems ⊢
      exact ⟨hitems.2.1, hitems.1, hitems.2.2⟩
  next => cases hswapped

theorem functionCall_admissible {found : List Mutation} (ht : IsWellFormed sort t)
    (hfound : functionCall c t = .ok found) :
    ∀ m ∈ found, m.replacement.Admissible t sort := by
  unfold functionCall at hfound
  split at hfound
  next line func args keywords =>
      obtain ⟨rfl, -⟩ := isWellFormed_node_iff.mp ht
      have hremoved (old : Tree) : (constantAt line .none).Admissible old .expression :=
        of_expression rfl (isWellFormed_constantAt line .none)
      split at hfound
      · cases hfound
        exact List.forall_mem_nil _
      · split at hfound
        · cases hfound
        · dsimp only at hfound
          split at hfound
          · cases hfound
            exact List.forall_mem_nil _
          · split at hfound
            · cases hfound
              exact List.forall_mem_nil _
            · split at hfound
              · cases hfound
                rw [List.forall_mem_singleton]
                exact hremoved _
              next swapped hswapped =>
                  cases hfound
                  rw [List.forall_mem_cons, List.forall_mem_singleton]
                  exact ⟨hremoved _,
                    of_expression rfl (swappedArguments?_isWellFormed ht hswapped)⟩
  · cases hfound
    exact List.forall_mem_nil _

theorem shiftedNumber_replacement {line : Nat} {n n' : Int} {direction : String} {m : Mutation}
    (hshifted : shiftedNumber c t line n n' direction = .ok m) :
    m.replacement = constantAt line (.int n') := by
  rw [shiftedNumber, bind_eq_ok_iff] at hshifted
  obtain ⟨before, -, hshifted⟩ := hshifted
  rw [bind_eq_ok_iff] at hshifted
  obtain ⟨after, -, hshifted⟩ := hshifted
  cases hshifted
  rfl

theorem changedText_replacement {line : Nat} {s : String} :
    ∀ m ∈ changedText c t line s, ∃ value, m.replacement = constantAt line value := by
  unfold changedText
  split
  · rw [List.forall_mem_singleton]
    exact ⟨_, rfl⟩
  · rw [List.forall_mem_cons, List.forall_mem_singleton]
    exact ⟨⟨_, rfl⟩, ⟨_, rfl⟩⟩

/-- Literals give way to literals of the same line, and an empty list to a filled one. -/
theorem literal_admissible {found : List Mutation} (ht : IsWellFormed sort t)
    (hfound : literal c t = .ok found) : ∀ m ∈ found, m.replacement.Admissible t sort := by
  unfold literal at hfound
  split at hfound
  · cases hfound
    obtain ⟨hsort, hfields⟩ := isWellFormed_node_iff.mp ht
    simp only [Kind.contents, fieldsConform, Bool.and_eq_true] at hfields
    rw [List.forall_mem_singleton]
    refine of_expression hsort (isWellFormed_node_iff.mpr ⟨rfl, ?_⟩)
    simp only [Kind.contents, fieldsConform, Bool.and_eq_true]
    exact ⟨rfl, hfields.2.1, trivial⟩
  next line value _ =>
      have hsort := (isWellFormed_node_iff.mp ht).1
      have hconstant : ∀ m : Mutation, (∃ value, m.replacement = constantAt line value) →
          ∀ old, m.replacement.Admissible old sort := by
        rintro m ⟨value, hvalue⟩ old
        rw [hvalue]
        exact of_expression hsort (isWellFormed_constantAt line value)
      split at hfound
      · cases hfound
        exact List.forall_mem_nil _
      · split at hfound
        next n =>
            obtain ⟨up, hup, hfound⟩ := bind_eq_ok_iff.mp hfound
            obtain ⟨down, hdown, hfound⟩ := bind_eq_ok_iff.mp hfound
            cases hfound
            rw [List.forall_mem_cons, List.forall_mem_singleton]
            exact ⟨hconstant up ⟨_, shiftedNumber_replacement hup⟩ _,
              hconstant down ⟨_, shiftedNumber_replacement hdown⟩ _⟩
        · cases hfound
          rw [List.forall_mem_cons, List.forall_mem_singleton]
          exact ⟨hconstant _ ⟨_, rfl⟩ _, hconstant _ ⟨_, rfl⟩ _⟩
        · split at hfound
          · cases hfound
            exact List.forall_mem_nil _
          · cases hfound
            exact fun m hm => hconstant m (changedText_replacement m hm) _
        · cases hfound
          exact List.forall_mem_nil _
  · cases hfound
    exact List.forall_mem_nil _

end Catalog

/-- Whatever a strategy proposes for a well-formed node may be put in its place. -/
theorem Strategy.mutate_admissible {s : Strategy} {c : Context} {t : Tree} {sort : NodeSort}
    {found : List Mutation} (ht : IsWellFormed sort t) (hfound : s.mutate c t = .ok found) :
    ∀ m ∈ found, m.replacement.Admissible t sort := by
  cases s with
  | arithmetic =>
      cases hfound
      exact Catalog.arithmetic_admissible ht
  | comparison =>
      cases hfound
      exact Catalog.comparison_admissible ht
  | boolean =>
      cases hfound
      exact Catalog.boolean_admissible ht
  | literal => exact Catalog.literal_admissible ht hfound
  | functionCall => exact Catalog.functionCall_admissible ht hfound
  | conditional =>
      cases hfound
      exact Catalog.conditional_admissible ht

namespace Mutation

/-- A node that a mutation fits is of the sort of its original. -/
theorem Fits.isWellFormed {m : Mutation} {n : Tree} {sort sort' : NodeSort} (hfits : m.Fits n)
    (horiginal : IsWellFormed sort m.original) (hn : IsWellFormed sort' n) :
    IsWellFormed sort n := by
  obtain ⟨kind, line, fields, hkind, rfl⟩ := horiginal.exists_node
  obtain ⟨kind', line', fields', rfl, rfl⟩ := hn.exists_node
  have hshape := hfits.2
  rw [hkind, Tree.shape, Tree.shape, Tree.node.injEq] at hshape
  rwa [← hshape.1]

/-- Applying a mutation that a walk found in a well-formed module gives a well-formed module.  An
expression gives way to an expression, a statement to a statement or a block.  Outside the place no
list that had an item becomes empty, and the blocks put in the place are blocks of the original. -/
theorem generated_mutation_keeps_grammar {strategies : List Strategy} {c : Context} {t : Tree}
    {found : List Mutation} (ht : IsWellFormed .module t)
    (hwalk : walk strategies c t = .ok found) {m : Mutation} (hm : m ∈ found) :
    ((∃ patched, m.apply t = .ok (patched, true)) ↔ m.Searchable t) ∧
      ∃ p old sort, m.FitsFirstAt t p ∧ t.nodeAt? p = some old ∧ IsWellFormed sort old ∧
        IsWellFormed sort m.original ∧ m.replacement.Admissible m.original sort ∧
        ∀ patched applied, m.apply t = .ok (patched, applied) →
          applied = true ∧ patched = Tree.graft m.replacement p t ∧
          IsWellFormed .module patched ∧
          ∀ q n, t.nodeAt? q = some n → ¬ p <+: q → ∃ n',
            patched.nodeAt? (Position.moved (asItems m.replacement).length p q) = some n' ∧
              n'.kind? = n.kind? ∧
              ∀ place, (n.field place).items ≠ [] → (n'.field place).items ≠ [] := by
  obtain ⟨origin, horigin, horiginal, hfits, s, -, here, hhere, hm⟩ :=
    exists_strategy_of_mem_walk hwalk hm
  have hnode := Tree.nodeAt?_of_mem_visits horigin
  obtain ⟨sort, hsort⟩ := Tree.exists_isWellFormed_of_nodeAt? ht hnode
  have hadmissible := s.mutate_admissible hsort hhere m hm
  rw [← horiginal] at hsort hadmissible
  obtain ⟨first, hfirst⟩ := exists_fitsFirstVisit horigin hfits
  have hfound := fitsFirstVisit_iff.mp hfirst
  have hold := Tree.nodeAt?_of_mem_visits (List.mem_of_find?_eq_some hfound)
  obtain ⟨sort', hsort'⟩ := Tree.exists_isWellFormed_of_nodeAt? ht hold
  have hfirstFits := hits_iff.mp (List.find?_some (p := fun w : Visit => m.hits w.node) hfound)
  have hplace := hfirstFits.isWellFormed hsort hsort'
  constructor
  · have hsearch := exists_apply_eq_ok_iff (m := m) (t := t)
    rw [horiginal, Tree.isNode_of_nodeAt? hnode] at hsearch
    rw [← (hsearch.trans (and_iff_right rfl))]
    constructor
    · rintro ⟨patched, happly⟩
      exact ⟨(patched, true), happly⟩
    · rintro ⟨⟨patched, applied⟩, happly⟩
      obtain ⟨rfl, -⟩ := apply_of_fitsFirstVisit hfirst happly
      exact ⟨patched, happly⟩
  · refine ⟨first.position, first.node, sort, fitsFirstAt_of_find? hfound, hold, hplace, hsort,
      hadmissible, fun patched applied happly => ?_⟩
    obtain ⟨rfl, rfl⟩ := apply_of_fitsFirstVisit hfirst happly
    refine ⟨rfl, rfl, ?_, fun q n hq houtside =>
      Tree.nodeAt?_graft_of_outside hold hq houtside hadmissible.suits.asItems.1⟩
    rcases Tree.suits_graft ht hold hplace hadmissible.suits with hmodule | ⟨hmodule, -⟩
    · exact hmodule
    · cases hmodule

/-- The statement `if b: x else: y` from line 2 on. -/
def innerChoice : Tree :=
  let name (line : Nat) (text : String) : Tree :=
    .node .name line [.text text, .node (.usage .load) 0 []]
  let statement (line : Nat) (text : String) : Tree :=
    .node .expressionStatement line [name line text]
  .node .ifStatement 2 [name 2 "b", .list [statement 3 "x"], .list [statement 5 "y"]]

/-- The statement `if a:` with only `innerChoice` in its block. -/
def outerChoice : Tree :=
  .node .ifStatement 1 [.node .name 1 [.text "a", .node (.usage .load) 0 []],
    .list [innerChoice], .list []]

/-- Taking the else branch of the inner choice: a block for the only statement of a block. -/
def takeInnerElse : Mutation :=
  Strategy.conditional.propose ⟨"m.py", []⟩ innerChoice (innerChoice.field 2)
    "always take else branch"

theorem nested_choice_keeps_grammar :
    let t : Tree := .node .module 0 [.list [outerChoice]]
    let found := Catalog.conditional ⟨"m.py", []⟩ outerChoice ++
      Catalog.conditional ⟨"m.py", []⟩ innerChoice
    IsWellFormed .module t ∧ walk [.conditional] ⟨"m.py", []⟩ t = .ok found ∧
      takeInnerElse ∈ found ∧
      ∃ patched, takeInnerElse.apply t = .ok (patched, true) ∧ IsWellFormed .module patched := by
  intro t found
  have ht : IsWellFormed .module t := by decide +kernel
  have hwalk : walk [.conditional] ⟨"m.py", []⟩ t = .ok found := by decide +kernel
  have hm : takeInnerElse ∈ found := by decide +kernel
  obtain ⟨-, _, _, _, _, _, _, _, _, hpatched⟩ := generated_mutation_keeps_grammar ht hwalk hm
  have happly : ((takeInnerElse.apply t).toOption.map Prod.snd) = some true := by decide +kernel
  cases hresult : takeInnerElse.apply t with
  | error e =>
      rw [hresult] at happly
      cases happly
  | ok result =>
      obtain ⟨patched, applied⟩ := result
      obtain ⟨rfl, -, hwellFormed, -⟩ := hpatched patched applied hresult
      exact ⟨ht, hwalk, hm, patched, rfl, hwellFormed⟩

end Mutation

end MutationTesting
