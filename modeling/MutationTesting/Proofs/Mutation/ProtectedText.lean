import MutationTesting.Proofs.Mutation.Generation
import MutationTesting.Source.Parse

/-!
# Texts that are left alone

A text that documents a definition, or that stands between the fields of a formatted string, is never
proposed for a change.  Yet what is replaced is the first node with the line and shape of the literal,
and that is a protected text where the same text follows on its line.
-/

namespace MutationTesting

open MutationTesting.Source (isTextConstant)

namespace Visit

/-- Whether a visit is at the text that documents a module, class or function: the whole of the first
statement of its body. -/
def IsDocstring (v : Visit) : Prop :=
  isTextConstant v.node = true ∧ ∃ outer owner statement, v.above = outer ++ [owner, statement] ∧
    statement.node.isKind .expressionStatement = true ∧ owner.item = 0 ∧
      owner.node.kind?.bind Catalog.bodyField? = some owner.field

/-- Whether a visit is at a text between the fields of a formatted string. -/
def IsFragment (v : Visit) : Prop :=
  isTextConstant v.node = true ∧ ∃ outer owner, v.above = outer ++ [owner] ∧
    owner.node.isKind .joinedStr = true

def IsProtected (v : Visit) : Prop := v.IsDocstring ∨ v.IsFragment

theorem IsProtected.isTextConstant {v : Visit} (hprotected : v.IsProtected) :
    isTextConstant v.node = true := by
  rcases hprotected with hdocstring | hfragment
  · exact hdocstring.1
  · exact hfragment.1

end Visit

namespace Catalog

theorem isDocumentation_of_above {filePath : String} {outer : List Ancestor}
    {owner statement : Ancestor} (hstatement : statement.node.isKind .expressionStatement = true)
    (hitem : owner.item = 0) (hfield : owner.node.kind?.bind bodyField? = some owner.field) :
    isDocumentation ⟨filePath, outer ++ [owner, statement]⟩ = true := by
  have hparent : (outer ++ [owner, statement]).getLast? = some statement := by simp
  have howner : (outer ++ [owner, statement]).dropLast.getLast? = some owner := by simp
  rw [isDocumentation, Context.parent?, Context.grandparent?, hparent, howner]
  simp [hstatement, hitem, hfield]

theorem isInFormattedString_of_above {filePath : String} {outer : List Ancestor} {owner : Ancestor}
    (howner : owner.node.isKind .joinedStr = true) :
    isInFormattedString ⟨filePath, outer ++ [owner]⟩ = true := by
  simp [isInFormattedString, howner]

theorem literal_of_text {c : Context} {t : Tree} (htext : isTextConstant t = true)
    (hleft : isInFormattedString c = true ∨ isDocumentation c = true) : literal c t = .ok [] := by
  unfold isTextConstant at htext
  split at htext
  · cases hinside : isInFormattedString c with
    | true => rw [literal, if_pos hinside]
    | false =>
        have hdocumentation := hleft.resolve_left (by rw [hinside]; exact Bool.false_ne_true)
        rw [literal, if_neg (by rw [hinside]; exact Bool.false_ne_true), if_pos hdocumentation]
  · cases htext

/-- Nothing is proposed for a protected text. -/
theorem literal_of_isProtected {v : Visit} (hprotected : v.IsProtected) (filePath : String) :
    literal ⟨filePath, v.above⟩ v.node = .ok [] := by
  rcases hprotected with ⟨htext, outer, owner, statement, habove, hstatement, hitem, hfield⟩ |
    ⟨htext, outer, owner, habove, howner⟩
  · rw [habove]
    exact literal_of_text htext (Or.inr (isDocumentation_of_above hstatement hitem hfield))
  · rw [habove]
    exact literal_of_text htext (Or.inl (isInFormattedString_of_above howner))

end Catalog

theorem isTextConstant_iff {t : Tree} :
    isTextConstant t = true ↔
      ∃ line s rest, t = .node .constant line (.literal (.text s) :: rest) := by
  unfold isTextConstant
  split
  next line s rest => exact iff_of_true rfl ⟨line, s, rest, rfl⟩
  next hother =>
      refine iff_of_false Bool.false_ne_true ?_
      rintro ⟨line, s, rest, rfl⟩
      exact hother line s rest rfl

/-- A node that writes the same as a text is a text. -/
theorem isTextConstant_of_shape_eq {t t' : Tree} (hshape : t.shape = t'.shape)
    (ht' : isTextConstant t' = true) : isTextConstant t = true := by
  obtain ⟨line, s, rest, rfl⟩ := isTextConstant_iff.mp ht'
  rw [Tree.shape, Tree.shapes] at hshape
  cases t with
  | node kind line' fields =>
      rw [Tree.shape, Tree.node.injEq] at hshape
      obtain ⟨rfl, -, hfields⟩ := hshape
      cases fields with
      | nil => cases hfields
      | cons first others =>
          obtain ⟨hfirst, -⟩ := List.cons.inj hfields
          cases first with
          | literal value =>
              cases hfirst
              rfl
          | _ => cases hfirst
  | _ => cases hshape

namespace Mutation

variable {m : Mutation} {t : Tree}

theorem FitsFirstVisit.eq_or_earlier {first w : Visit} (hfirst : m.FitsFirstVisit t first)
    (hw : w ∈ t.visits) (hfits : m.Fits w.node) : w = first ∨ first.Earlier w := by
  obtain ⟨before, after, hvisits, -, hmissed⟩ := hfirst
  have hsorted := Tree.pairwise_earlier_visits t
  rw [hvisits] at hw hsorted
  rcases List.mem_append.mp hw with hbefore | hrest
  · exact absurd hfits (hmissed w hbefore)
  · rcases List.mem_cons.mp hrest with rfl | hafter
    · exact Or.inl rfl
    · exact Or.inr ((List.pairwise_cons.mp (List.pairwise_append.mp hsorted).2.1).1 w hafter)

/-- The first node that a mutation fits is of a kind just when one of that kind comes before all
others that it fits. -/
theorem FitsFirstVisit.holds_iff {first : Visit} (hfirst : m.FitsFirstVisit t first)
    (P : Visit → Prop) :
    P first ↔ ∃ v ∈ t.visits, P v ∧ m.Fits v.node ∧
      ∀ w ∈ t.visits, m.Fits w.node → ¬ P w → v.Earlier w := by
  have hvisited : first ∈ t.visits ∧ m.Fits first.node := by
    obtain ⟨before, after, hvisits, hfits, -⟩ := hfirst
    rw [hvisits]
    exact ⟨List.mem_append_right before List.mem_cons_self, hfits⟩
  constructor
  · intro hP
    refine ⟨first, hvisited.1, hP, hvisited.2, fun w hw hfits hnot => ?_⟩
    rcases hfirst.eq_or_earlier hw hfits with rfl | hearlier
    · exact absurd hP hnot
    · exact hearlier
  · rintro ⟨v, hv, hP, hfits, hbefore⟩
    by_contra hnot
    have hearlier := hbefore first hvisited.1 hvisited.2 hnot
    rcases hfirst.eq_or_earlier hv hfits with rfl | hlater
    · exact hnot hP
    · exact Std.Asymm.asymm _ _ hearlier hlater

/-- A literal is never proposed for a change where it is a protected text.  What is replaced is a
protected text just when one with the literal's line and shape comes before all unprotected ones; the
literal is a text then. -/
theorem literal_replaces_protected_text_iff {strategies : List Strategy} {filePath : String}
    {found : List Mutation} (hfound : mutationsOf strategies filePath t = .ok found)
    (hm : m ∈ found) (hliteral : m.strategy = Strategy.literal.name) :
    (∃ origin ∈ t.visits, m.original = origin.node ∧ ¬ origin.IsProtected) ∧
      ∃ first, m.FitsFirstVisit t first ∧
        (∀ patched applied, m.apply t = .ok (patched, applied) →
          applied = true ∧ patched = Tree.graft m.replacement first.position t) ∧
        (first.IsProtected ↔ ∃ v ∈ t.visits, v.IsProtected ∧ m.Fits v.node ∧
          ∀ w ∈ t.visits, m.Fits w.node → ¬ w.IsProtected → v.Earlier w) ∧
        (first.IsProtected → isTextConstant m.original = true) := by
  obtain ⟨origin, horigin, hnode, hfits, s, -, here, hhere, hproposed⟩ :=
    exists_strategy_of_mem_walk hfound hm
  have hstrategy : s = .literal := by
    apply Strategy.name_injective
    rw [← (Strategy.mutate_proposes hhere m hproposed).strategy_eq, hliteral]
  subst hstrategy
  obtain ⟨first, hfirst⟩ := exists_fitsFirstVisit horigin hfits
  refine ⟨⟨origin, horigin, hnode, fun hprotected => ?_⟩, first, hfirst,
    fun _ _ happly => apply_of_fitsFirstVisit hfirst happly, hfirst.holds_iff Visit.IsProtected,
    fun hprotected => ?_⟩
  · have hnone := Catalog.literal_of_isProtected hprotected filePath
    cases hnone.symm.trans hhere
    cases hproposed
  · obtain ⟨_, _, _, hfitsFirst, -⟩ := hfirst
    exact isTextConstant_of_shape_eq hfitsFirst.2.symm hprotected.isTextConstant

/-- The program `"doc"; x = "doc"`. -/
def documentedLine : Tree :=
  .node .module 0 [.list [.node .expressionStatement 1 [Catalog.constantAt 1 (.text "doc")],
    .node .assign 1 [.list [.node .name 1 [.text "x", .node (.usage .store) 0 []]],
      Catalog.constantAt 1 (.text "doc")]]]

/-- The text `"doc"`, emptied. -/
def emptiedDoc : Mutation :=
  Strategy.literal.propose ⟨"m.py", []⟩ (Catalog.constantAt 1 (.text "doc"))
    (Catalog.constantAt 1 (.text "")) "\"doc\" to \"\" (empty string)"

/-- The first statement of the documented line. -/
def documentation : Visit :=
  ⟨[⟨documentedLine, 0, 0⟩,
    ⟨.node .expressionStatement 1 [Catalog.constantAt 1 (.text "doc")], 0, 0⟩],
    Catalog.constantAt 1 (.text "doc")⟩

/-- The documentation of a module is replaced where an equal text follows it on its line. -/
theorem docstring_replaced_for_text_on_its_line :
    ¬ ∀ (source : String) (t : Tree) (found : List Mutation), Source.parse? source = some t →
      mutationsOf [.literal] "m.py" t = .ok found → ∀ m ∈ found, ∀ first patched,
        m.FitsFirstVisit t first → m.apply t = .ok (patched, true) →
          patched = Tree.graft m.replacement first.position t → ¬ first.IsProtected := by
  intro hnever
  have hparse : Source.parse? "\"doc\"; x = \"doc\"\n" = some documentedLine := by decide +kernel
  have hm : ∃ found, mutationsOf [.literal] "m.py" documentedLine = .ok found ∧
      emptiedDoc ∈ found := by
    refine ⟨[emptiedDoc, Strategy.literal.propose ⟨"m.py", []⟩
      (Catalog.constantAt 1 (.text "doc")) (Catalog.constantAt 1 (.text "docx"))
      "\"doc\" to \"docx\" (append char)"], ?_, List.mem_cons_self⟩
    decide +kernel
  obtain ⟨found, hfound, hm⟩ := hm
  have hfirst : emptiedDoc.FitsFirstVisit documentedLine documentation :=
    fitsFirstVisit_iff.mpr (by decide +kernel)
  have happly : emptiedDoc.apply documentedLine =
      .ok (Tree.graft emptiedDoc.replacement documentation.position documentedLine, true) := by
    decide +kernel
  refine hnever _ _ found hparse hfound emptiedDoc hm documentation _ hfirst happly rfl ?_
  exact Or.inl ⟨rfl, [], _, _, rfl, rfl, rfl, rfl⟩

/-- The program `x = f"a" + "a"`. -/
def formattedLine : Tree :=
  .node .module 0 [.list [.node .assign 1
    [.list [.node .name 1 [.text "x", .node (.usage .store) 0 []]],
      .node .binOp 1 [.node .joinedStr 1 [.list [Catalog.constantAt 1 (.text "a")]],
        .node (.binary .add) 0 [], Catalog.constantAt 1 (.text "a")]]]]

/-- The text `"a"`, emptied. -/
def emptiedText : Mutation :=
  Strategy.literal.propose ⟨"m.py", []⟩ (Catalog.constantAt 1 (.text "a"))
    (Catalog.constantAt 1 (.text "")) "\"a\" to \"\" (empty string)"

theorem fragment_replaced_for_text_on_its_line :
    let found := [emptiedText, Strategy.literal.propose ⟨"m.py", []⟩
      (Catalog.constantAt 1 (.text "a")) (Catalog.constantAt 1 (.text "ax"))
      "\"a\" to \"ax\" (append char)"]
    mutationsOf [.literal] "m.py" formattedLine = .ok found ∧ emptiedText ∈ found ∧
      emptiedText.strategy = Strategy.literal.name ∧
      ∃ first, emptiedText.FitsFirstVisit formattedLine first ∧ first.IsFragment ∧
        ∃ origin ∈ formattedLine.visits, emptiedText.original = origin.node ∧
          ¬ origin.IsProtected := by
  intro found
  have hfound : mutationsOf [.literal] "m.py" formattedLine = .ok found := by decide +kernel
  have hm : emptiedText ∈ found := List.mem_cons_self
  obtain ⟨horigin, first, hfirst, -, -, -⟩ := literal_replaces_protected_text_iff hfound hm rfl
  have hfragment : ∃ v, emptiedText.FitsFirstVisit formattedLine v ∧ v.IsFragment := by
    refine ⟨_, fitsFirstVisit_iff.mpr rfl, rfl, [_, _, _], _, rfl, rfl⟩
  obtain ⟨v, hv, hfragment⟩ := hfragment
  cases hfirst.unique hv
  exact ⟨hfound, hm, rfl, first, hfirst, hfragment, horigin⟩

end Mutation

end MutationTesting
