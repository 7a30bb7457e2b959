import Mathlib.Data.List.Lex
import MutationTesting.Tree.Basic

/-!
# Positions in a tree

A position is the way from the root of a tree down to one of its nodes.  Each step names a field
and, where the field holds a list, an item of it.  Positions in lexicographic order are the nodes in
pre-order: a node stands before all nodes below it, and what is below an earlier field or item
stands before what is below a later one.
-/

namespace MutationTesting.Tree

/-- One step down from a node.  The item counts only where the field holds a list, and is zero
elsewhere. -/
structure Step where
  field : Nat
  item : Nat
deriving DecidableEq, Repr

abbrev Position := List Step

def Step.Before (left right : Step) : Prop :=
  left.field < right.field ∨ left.field = right.field ∧ left.item < right.item

instance : Std.Asymm Step.Before where
  asymm left right hleft hright := by
    rcases hleft with hleft | hleft <;> rcases hright with hright | hright <;> omega

/-- Whether a position comes before another one in pre-order. -/
def Position.Before (left right : Position) : Prop := List.Lex Step.Before left right

theorem Position.Before.asymm {left right : Position} (hbefore : left.Before right) :
    ¬ right.Before left :=
  Std.Asymm.asymm (r := List.Lex Step.Before) left right hbefore

theorem Position.Before.irrefl (p : Position) : ¬ p.Before p :=
  fun hbefore => hbefore.asymm hbefore

/-- The node at an item of what a field holds. -/
def slot? (item : Nat) : Tree → Option Tree
  | .list items => items[item]?.filter isNode
  | .node kind line fields => if item = 0 then some (.node kind line fields) else none
  | _ => none

/-- The node at a position. -/
def nodeAt? : Position → Tree → Option Tree
  | [], t => if t.isNode then some t else none
  | step :: rest, t => (t.fields[step.field]?.bind (slot? step.item)).bind (nodeAt? rest)

theorem isNode_of_slot? {item : Nat} {content t : Tree} (hslot : slot? item content = some t) :
    t.isNode = true := by
  cases content with
  | list items =>
      rw [slot?, Option.filter_eq_some_iff] at hslot
      exact hslot.2
  | node kind line fields =>
      rw [slot?] at hslot
      split at hslot
      · cases hslot
        rfl
      · cases hslot
  | _ => cases hslot

theorem isNode_of_nodeAt? {p : Position} {t n : Tree} (hnode : nodeAt? p t = some n) :
    n.isNode = true := by
  induction p generalizing t with
  | nil =>
      rw [nodeAt?] at hnode
      split at hnode
      next hroot =>
          cases hnode
          exact hroot
      next => cases hnode
  | cons step rest ih =>
      rw [nodeAt?, Option.bind_eq_some_iff] at hnode
      obtain ⟨child, _, hrest⟩ := hnode
      exact ih hrest

end MutationTesting.Tree
