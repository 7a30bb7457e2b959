import MutationTesting.Mutation.Catalog.Operators
import MutationTesting.Proofs.Mutation.Replacement

/-!
# What applying a mutation does

A mutation fits a node that stands on its line and has the shape of its original.  Applying it
replaces the first node in pre-order that it fits, and nothing else; if it fits no node, the tree
stays as it is.  The search compares shapes through their texts, so it breaks off at a node on its
line that holds a whole number with too many digits.
-/

namespace MutationTesting

open MutationTesting.Tree (Position)

namespace Mutation

/-- Whether a node is on the line of a mutation and has the shape of its original. -/
def Fits (m : Mutation) (n : Tree) : Prop :=
  (∃ line, n.line? = some line ∧ (line : Int) = m.line) ∧ n.shape = m.original.shape

/-- Whether a mutation fits the node at a position. -/
def FitsAt (m : Mutation) (t : Tree) (p : Position) : Prop := ∃ n, t.nodeAt? p = some n ∧ m.Fits n

/-- Whether a position is the first one in pre-order that a mutation fits. -/
def FitsFirstAt (m : Mutation) (t : Tree) (p : Position) : Prop :=
  m.FitsAt t p ∧ ∀ q, q.Before p → ¬ m.FitsAt t q

/-- Whether the shapes that the search compares all have a text: that of the original, and those of
the nodes on its line up to the first one it fits. -/
def Searchable (m : Mutation) (t : Tree) : Prop :=
  m.original.isWritable = true ∧
    ∀ p n line, t.nodeAt? p = some n → n.line? = some line → (line : Int) = m.line →
      (∀ q, q = p ∨ q.Before p → ¬ m.FitsAt t q) → n.isWritable = true

theorem onLine_iff {m : Mutation} {n : Tree} :
    m.onLine n = true ↔ ∃ line, n.line? = some line ∧ (line : Int) = m.line := by
  rw [onLine]
  cases n.line? <;> simp

theorem hits_iff {m : Mutation} {n : Tree} : m.hits n = true ↔ m.Fits n := by
  rw [hits, Bool.and_eq_true, onLine_iff, decide_eq_true_iff, Fits]

theorem fitsAt_iff {m : Mutation} {t : Tree} {p : Position} :
    m.FitsAt t p ↔ ∃ v ∈ t.visits, v.position = p ∧ m.Fits v.node := by
  constructor
  · rintro ⟨n, hnode, hfits⟩
    obtain ⟨v, hv, hposition, rfl⟩ := Tree.exists_visit_of_nodeAt? hnode
    exact ⟨v, hv, hposition, hfits⟩
  · rintro ⟨v, hv, rfl, hfits⟩
    exact ⟨v.node, Tree.nodeAt?_of_mem_visits hv, hfits⟩

/-- The search finds the first position that the mutation fits. -/
theorem fitsFirstAt_of_find? {m : Mutation} {t : Tree} {v : Visit}
    (hfound : (t.visits.find? fun v => m.hits v.node) = some v) : m.FitsFirstAt t v.position := by
  obtain ⟨hhits, before, after, hvisits, hmissed⟩ := List.find?_eq_some_iff_append.mp hfound
  have hsorted := Tree.pairwise_earlier_visits t
  refine ⟨fitsAt_iff.mpr ⟨v, List.mem_of_find?_eq_some hfound, rfl, hits_iff.mp hhits⟩, ?_⟩
  intro q hbefore hfits
  obtain ⟨w, hw, rfl, hwfits⟩ := fitsAt_iff.mp hfits
  rw [hvisits, List.pairwise_append] at hsorted
  rw [hvisits, List.mem_append, List.mem_cons] at hw
  rcases hw with hw | rfl | hw
  · simpa [hits_iff.mpr hwfits] using hmissed w hw
  · exact hbefore.irrefl
  · exact hbefore.asymm ((List.pairwise_cons.mp hsorted.2.1).1 w hw)

/-- In a list sorted by a strict order, the longest prefix that passes a test holds the entries that
pass it with all entries before them. -/
theorem mem_takeWhile_of_pairwise {α : Type*} {earlier : α → α → Prop} [Std.Asymm earlier]
    {test : α → Bool} {entries : List α} (hsorted : entries.Pairwise earlier) {x : α} :
    x ∈ entries.takeWhile test ↔
      x ∈ entries ∧ ∀ y ∈ entries, y = x ∨ earlier y x → test y = true := by
  induction entries with
  | nil => simp
  | cons first rest ih =>
      obtain ⟨hfirst, hrest⟩ := List.pairwise_cons.mp hsorted
      rw [List.takeWhile_cons]
      cases htest : test first with
      | false =>
          rw [if_neg Bool.false_ne_true]
          refine iff_of_false List.not_mem_nil ?_
          rintro ⟨hx, hpass⟩
          have hstop : first = x ∨ earlier first x := by
            rcases List.mem_cons.mp hx with rfl | hx
            · exact Or.inl rfl
            · exact Or.inr (hfirst x hx)
          rw [hpass first List.mem_cons_self hstop] at htest
          cases htest
      | true =>
          rw [if_pos rfl, List.mem_cons, List.mem_cons, ih hrest]
          constructor
          · rintro (rfl | ⟨hx, hpass⟩)
            · refine ⟨Or.inl rfl, fun y hy hyx => ?_⟩
              rcases List.mem_cons.mp hy with rfl | hy
              · exact htest
              · rcases hyx with rfl | hyx
                · exact htest
                · exact absurd (hfirst y hy) (Std.Asymm.asymm y x hyx)
            · refine ⟨Or.inr hx, fun y hy hyx => ?_⟩
              rcases List.mem_cons.mp hy with rfl | hy
              · exact htest
              · exact hpass y hy hyx
          · rintro ⟨rfl | hx, hpass⟩
            · exact Or.inl rfl
            · exact Or.inr ⟨hx, fun y hy hyx => hpass y (List.mem_cons_of_mem first hy) hyx⟩

instance : Std.Asymm Visit.Earlier where
  asymm _ _ hearlier := hearlier.asymm

/-- The search meets a node without a text exactly if there is one on its line, and it fits neither
that node nor one before it. -/
theorem meetsUnwritable_iff {m : Mutation} {t : Tree} :
    m.meetsUnwritable t = true ↔
      ∃ p n line, t.nodeAt? p = some n ∧ n.line? = some line ∧ (line : Int) = m.line ∧
        (∀ q, q = p ∨ q.Before p → ¬ m.FitsAt t q) ∧ n.isWritable = false := by
  rw [meetsUnwritable, Tree.nodes_eq_map_visits, List.takeWhile_map, List.any_eq_true]
  constructor
  · rintro ⟨n, hn, hbad⟩
    obtain ⟨v, hv, rfl⟩ := List.mem_map.mp hn
    obtain ⟨hv, hmissed⟩ :=
      (mem_takeWhile_of_pairwise (Tree.pairwise_earlier_visits t)).mp hv
    rw [Bool.and_eq_true, onLine_iff, Bool.not_eq_true'] at hbad
    obtain ⟨⟨line, hline, hsame⟩, hbad⟩ := hbad
    refine ⟨v.position, v.node, line, Tree.nodeAt?_of_mem_visits hv, hline, hsame, ?_, hbad⟩
    intro q hq hfits
    obtain ⟨w, hw, rfl, hwfits⟩ := fitsAt_iff.mp hfits
    have hhits : m.hits w.node = true := hits_iff.mpr hwfits
    have hnode : w.position = v.position → w.node = v.node := by
      intro hposition
      have hw' := Tree.nodeAt?_of_mem_visits hw
      rw [hposition, Tree.nodeAt?_of_mem_visits hv] at hw'
      exact (Option.some.inj hw').symm
    rcases hq with hposition | hbefore
    · have hpass := hmissed v hv (Or.inl rfl)
      rw [Function.comp_apply, ← hnode hposition, hhits] at hpass
      cases hpass
    · have hpass := hmissed w hw (Or.inr hbefore)
      rw [Function.comp_apply, hhits] at hpass
      cases hpass
  · rintro ⟨p, n, line, hnode, hline, hsame, hunfit, hbad⟩
    obtain ⟨v, hv, rfl, rfl⟩ := Tree.exists_visit_of_nodeAt? hnode
    refine ⟨v.node, List.mem_map.mpr ⟨v, ?_, rfl⟩, ?_⟩
    · refine (mem_takeWhile_of_pairwise (Tree.pairwise_earlier_visits t)).mpr
        ⟨hv, fun w hw hearlier => ?_⟩
      have hposition : w.position = v.position ∨ w.position.Before v.position :=
        hearlier.imp_left fun h => congrArg Visit.position h
      have hmiss : ¬ m.hits w.node = true := fun hhits =>
        hunfit w.position hposition (fitsAt_iff.mpr ⟨w, hw, rfl, hits_iff.mp hhits⟩)
      simpa using hmiss
    · rw [Bool.and_eq_true, onLine_iff, hbad]
      exact ⟨⟨line, hline, hsame⟩, rfl⟩

/-- A search comes to its end exactly if all shapes it compares have a text. -/
theorem exists_apply_eq_ok_iff {m : Mutation} {t : Tree} :
    (∃ outcome, m.apply t = .ok outcome) ↔ m.original.isNode = true ∧ m.Searchable t := by
  have hmeets : m.meetsUnwritable t = false ↔
      ∀ p n line, t.nodeAt? p = some n → n.line? = some line → (line : Int) = m.line →
        (∀ q, q = p ∨ q.Before p → ¬ m.FitsAt t q) → n.isWritable = true := by
    rw [← Bool.not_eq_true, meetsUnwritable_iff]
    simp only [not_exists, not_and, Bool.not_eq_false]
  rw [apply, Searchable, ← hmeets]
  cases m.original.isNode <;> cases m.original.isWritable <;> cases m.meetsUnwritable t <;> simp

/-- A search that comes to its end looks for the first hit. -/
theorem replaceFirst_of_apply_eq_ok {m : Mutation} {t : Tree} {outcome : Tree × Bool}
    (happly : m.apply t = .ok outcome) : outcome = Tree.replaceFirst m.hits m.replacement t := by
  rw [apply] at happly
  split at happly
  · cases happly
  · split at happly
    · cases happly
    · exact (Except.ok.inj happly).symm

/-- The expression `a + b`. -/
def plainSum : Tree :=
  .node .binOp 1
    [.node .name 1 [.text "a", .node (.usage .load) 0 []], .node (.binary .add) 0 [],
      .node .name 1 [.text "b", .node (.usage .load) 0 []]]

end Mutation

end MutationTesting
