import MutationTesting.Mutation.Basic
import MutationTesting.Mutation.Patch
import MutationTesting.Proofs.Tree.Position

/-!
# Visits

Going through a tree in pre-order visits each of its nodes once.  A visit remembers the nodes above,
so it knows its position.  The visits of a tree are exactly its positions, and they come in the
order of the positions.
-/

namespace MutationTesting

open MutationTesting.Tree (Step Position)

/-- The step from an ancestor to the next node below. -/
def Ancestor.step (a : Ancestor) : Step := ⟨a.field, a.item⟩

/-- A node with the nodes above it, from the root to its parent. -/
structure Visit where
  above : List Ancestor
  node : Tree
deriving DecidableEq, Repr

namespace Visit

def position (v : Visit) : Position := v.above.map Ancestor.step

/-- A visit seen from one more node above. -/
def under (a : Ancestor) (v : Visit) : Visit := ⟨a :: v.above, v.node⟩

@[simp]
theorem node_under (a : Ancestor) (v : Visit) : (v.under a).node = v.node := rfl

@[simp]
theorem above_under (a : Ancestor) (v : Visit) : (v.under a).above = a :: v.above := rfl

@[simp]
theorem position_under (a : Ancestor) (v : Visit) :
    (v.under a).position = a.step :: v.position := rfl

/-- Whether a visit comes earlier than another one. -/
def Earlier (left right : Visit) : Prop := left.position.Before right.position

end Visit

namespace Tree

mutual

/-- The visits of a tree in pre-order. -/
def visits : Tree → List Visit
  | .node kind line fields =>
    ⟨[], .node kind line fields⟩ :: visitsInFields (.node kind line fields) 0 fields
  | _ => []
termination_by structural t => t

/-- The visits in the fields of a node from a place on. -/
def visitsInFields (owner : Tree) (place : Nat) : List Tree → List Visit
  | [] => []
  | .list items :: rest =>
    visitsInItems owner place 0 items ++ visitsInFields owner (place + 1) rest
  | t :: rest =>
    (visits t).map (Visit.under ⟨owner, place, 0⟩) ++ visitsInFields owner (place + 1) rest
termination_by structural ts => ts

/-- The visits in a list field from an item on. -/
def visitsInItems (owner : Tree) (place item : Nat) : List Tree → List Visit
  | [] => []
  | t :: rest =>
    (visits t).map (Visit.under ⟨owner, place, item⟩) ++ visitsInItems owner place (item + 1) rest
termination_by structural ts => ts

end

theorem isNode_of_mem_visits {t : Tree} {v : Visit} (hvisit : v ∈ visits t) : t.isNode = true := by
  cases t with
  | node kind line fields => rfl
  | _ => simp [visits] at hvisit

/-- What is visited in the items of a list is visited in one of its nodes. -/
theorem mem_visitsInItems {owner : Tree} {place item : Nat} {items : List Tree} {w : Visit} :
    w ∈ visitsInItems owner place item items ↔
      ∃ offset t v, items[offset]? = some t ∧ v ∈ visits t ∧
        w = v.under ⟨owner, place, item + offset⟩ := by
  induction items generalizing item with
  | nil => simp [visitsInItems]
  | cons first rest ih =>
      rw [visitsInItems, List.mem_append, ih]
      constructor
      · rintro (hfirst | ⟨offset, t, v, ht, hv, rfl⟩)
        · obtain ⟨v, hv, rfl⟩ := List.mem_map.mp hfirst
          exact ⟨0, first, v, rfl, hv, rfl⟩
        · exact ⟨offset + 1, t, v, ht, hv, by rw [Nat.add_assoc, Nat.add_comm 1]⟩
      · rintro ⟨offset, t, v, ht, hv, rfl⟩
        cases offset with
        | zero =>
            cases ht
            exact Or.inl (List.mem_map.mpr ⟨v, hv, rfl⟩)
        | succ offset =>
            exact Or.inr ⟨offset, t, v, ht, hv, by rw [Nat.add_assoc, Nat.add_comm 1]⟩

/-- What is visited in the first of some fields is visited in one of the slots of that field. -/
theorem mem_visitsInFields_cons {owner : Tree} {place : Nat} {content : Tree} {rest : List Tree}
    {w : Visit} :
    w ∈ visitsInFields owner place (content :: rest) ↔
      (∃ item t v, slot? item content = some t ∧ v ∈ visits t ∧ w = v.under ⟨owner, place, item⟩) ∨
        w ∈ visitsInFields owner (place + 1) rest := by
  cases content with
  | list items =>
      rw [visitsInFields, List.mem_append, mem_visitsInItems]
      apply or_congr_left
      constructor
      · rintro ⟨item, t, v, ht, hv, rfl⟩
        refine ⟨item, t, v, ?_, hv, by rw [Nat.zero_add]⟩
        rw [slot?, ht, Option.filter_some, if_pos (isNode_of_mem_visits hv)]
      · rintro ⟨item, t, v, ht, hv, rfl⟩
        rw [slot?, Option.filter_eq_some_iff] at ht
        exact ⟨item, t, v, ht.1, hv, by rw [Nat.zero_add]⟩
  | node kind line fields =>
      rw [visitsInFields, List.mem_append, List.mem_map]
      · apply or_congr_left
        constructor
        · rintro ⟨v, hv, rfl⟩
          exact ⟨0, _, v, rfl, hv, rfl⟩
        · rintro ⟨item, t, v, ht, hv, rfl⟩
          rw [slot?] at ht
          split at ht
          next hitem =>
              cases ht
              exact ⟨v, hv, by rw [hitem]⟩
          next => cases ht
      · simp
  | _ => simp [visitsInFields, visits, slot?]

/-- What is visited in the fields of a node is visited in one of their slots. -/
theorem mem_visitsInFields {owner : Tree} {place : Nat} {fields : List Tree} {w : Visit} :
    w ∈ visitsInFields owner place fields ↔
      ∃ offset content item t v, fields[offset]? = some content ∧ slot? item content = some t ∧
        v ∈ visits t ∧ w = v.under ⟨owner, place + offset, item⟩ := by
  induction fields generalizing place with
  | nil => simp [visitsInFields]
  | cons first rest ih =>
      rw [mem_visitsInFields_cons, ih]
      constructor
      · rintro (⟨item, t, v, ht, hv, rfl⟩ | ⟨offset, content, item, t, v, hcontent, ht, hv, rfl⟩)
        · exact ⟨0, first, item, t, v, rfl, ht, hv, rfl⟩
        · exact ⟨offset + 1, content, item, t, v, hcontent, ht, hv,
            by rw [Nat.add_assoc, Nat.add_comm 1]⟩
      · rintro ⟨offset, content, item, t, v, hcontent, ht, hv, rfl⟩
        cases offset with
        | zero =>
            cases hcontent
            exact Or.inl ⟨item, t, v, ht, hv, rfl⟩
        | succ offset =>
            exact Or.inr ⟨offset, content, item, t, v, hcontent, ht, hv,
              by rw [Nat.add_assoc, Nat.add_comm 1]⟩

/-- The visits of a node are the one of the node itself, and those in its slots. -/
theorem mem_visits_node {kind : Kind} {line : Nat} {fields : List Tree} {w : Visit} :
    w ∈ visits (.node kind line fields) ↔
      w = ⟨[], .node kind line fields⟩ ∨
        ∃ (step : Step) (t : Tree) (v : Visit),
          fields[step.field]?.bind (slot? step.item) = some t ∧ v ∈ visits t ∧
          w = v.under ⟨.node kind line fields, step.field, step.item⟩ := by
  rw [visits, List.mem_cons, mem_visitsInFields]
  apply or_congr_right
  constructor
  · rintro ⟨field, content, item, t, v, hcontent, ht, hv, rfl⟩
    refine ⟨⟨field, item⟩, t, v, ?_, hv, by rw [Nat.zero_add]⟩
    rw [hcontent, Option.bind_some, ht]
  · rintro ⟨step, t, v, hslot, hv, rfl⟩
    obtain ⟨content, hcontent, ht⟩ := Option.bind_eq_some_iff.mp hslot
    exact ⟨step.field, content, step.item, t, v, hcontent, ht, hv, by rw [Nat.zero_add]⟩

/-- What is visited in a field of a node, or in an item of a field, is visited in the node. -/
theorem exists_visit_below {kind : Kind} {line : Nat} {fields : List Tree} {field t : Tree}
    {v : Visit} (hfield : field ∈ fields) (ht : t = field ∨ t ∈ field.items)
    (hv : v ∈ visits t) : ∃ w ∈ visits (.node kind line fields), w.node = v.node := by
  have hnode := isNode_of_mem_visits hv
  have hslot : ∃ item, slot? item field = some t := by
    rcases ht with rfl | hitem
    · cases t with
      | node kind line fields => exact ⟨0, rfl⟩
      | _ => cases hnode
    · cases field with
      | list items =>
          obtain ⟨item, hitem⟩ : ∃ item : Nat, items[item]? = some t := List.getElem?_of_mem hitem
          exact ⟨item, by rw [slot?, hitem, Option.filter_some, if_pos hnode]⟩
      | _ => cases hitem
  obtain ⟨item, hslot⟩ := hslot
  obtain ⟨place, hplace⟩ := List.getElem?_of_mem hfield
  refine ⟨v.under ⟨.node kind line fields, place, item⟩, mem_visits_node.mpr (Or.inr
    ⟨⟨place, item⟩, t, v, ?_, hv, rfl⟩), rfl⟩
  rw [hplace, Option.bind_some, hslot]

theorem nodeAt?_of_mem_visits {t : Tree} {v : Visit} (hvisit : v ∈ visits t) :
    nodeAt? v.position t = some v.node := by
  obtain ⟨above, node⟩ := v
  induction above generalizing t with
  | nil =>
      cases t with
      | node kind line fields =>
          rcases mem_visits_node.mp hvisit with hroot | ⟨_, _, _, _, _, hbelow⟩
          · cases hroot
            rfl
          · cases hbelow
      | _ => simp [visits] at hvisit
  | cons first rest ih =>
      cases t with
      | node kind line fields =>
          rcases mem_visits_node.mp hvisit with hroot | ⟨step, child, v, hslot, hv, hbelow⟩
          · cases hroot
          · cases hbelow
            exact Option.bind_eq_some_iff.mpr ⟨child, hslot, ih hv⟩
      | _ => simp [visits] at hvisit

/-- The nodes above a visit are those on the way to its position, from the root on. -/
theorem nodeAt?_take_of_mem_visits {t : Tree} {v : Visit} (hvisit : v ∈ visits t) {depth : Nat}
    {a : Ancestor} (ha : v.above[depth]? = some a) :
    nodeAt? (v.position.take depth) t = some a.node := by
  obtain ⟨above, node⟩ := v
  induction above generalizing t depth with
  | nil => cases ha
  | cons first rest ih =>
      cases t with
      | node kind line fields =>
          rcases mem_visits_node.mp hvisit with hroot | ⟨step, child, v, hslot, hv, hbelow⟩
          · cases hroot
          · cases hbelow
            cases depth with
            | zero =>
                cases ha
                rfl
            | succ depth => exact Option.bind_eq_some_iff.mpr ⟨child, hslot, ih hv ha⟩
      | _ => simp [visits] at hvisit

theorem exists_visit_of_nodeAt? {p : Position} {t n : Tree} (hnode : nodeAt? p t = some n) :
    ∃ v ∈ visits t, v.position = p ∧ v.node = n := by
  induction p generalizing t with
  | nil =>
      cases t with
      | node kind line fields =>
          cases hnode
          exact ⟨⟨[], _⟩, mem_visits_node.mpr (Or.inl rfl), rfl, rfl⟩
      | _ => simp [nodeAt?, isNode] at hnode
  | cons step rest ih =>
      rw [nodeAt?, Option.bind_eq_some_iff] at hnode
      obtain ⟨child, hslot, hrest⟩ := hnode
      obtain ⟨v, hv, hposition, hvnode⟩ := ih hrest
      cases t with
      | node kind line fields =>
          refine ⟨v.under ⟨_, step.field, step.item⟩,
            mem_visits_node.mpr (Or.inr ⟨step, child, v, hslot, hv, rfl⟩), ?_, hvnode⟩
          rw [Visit.position_under, hposition]
          rfl
      | _ => simp [fields] at hslot

/-- The steps that lead out of the first of some fields come before those that lead out of the
others. -/
theorem exists_step_of_mem_visitsInFields {owner : Tree} {place : Nat} {fields : List Tree}
    {w : Visit} (hvisit : w ∈ visitsInFields owner place fields) :
    ∃ step rest, w.position = step :: rest ∧ place ≤ step.field := by
  obtain ⟨offset, _, item, _, v, _, _, _, rfl⟩ := mem_visitsInFields.mp hvisit
  exact ⟨_, _, rfl, Nat.le_add_right place offset⟩

theorem exists_step_of_mem_visitsInItems {owner : Tree} {place item : Nat} {items : List Tree}
    {w : Visit} (hvisit : w ∈ visitsInItems owner place item items) :
    ∃ step rest, w.position = step :: rest ∧ step.field = place ∧ item ≤ step.item := by
  obtain ⟨offset, _, v, _, _, rfl⟩ := mem_visitsInItems.mp hvisit
  exact ⟨_, _, rfl, rfl, Nat.le_add_right item offset⟩

theorem pairwise_earlier_under (a : Ancestor) {visits : List Visit}
    (hsorted : visits.Pairwise Visit.Earlier) :
    (visits.map (Visit.under a)).Pairwise Visit.Earlier := by
  rw [List.pairwise_map]
  exact hsorted.imp fun hearlier => List.Lex.cons hearlier

mutual

/-- Visits come in the order of their positions. -/
theorem pairwise_earlier_visits : ∀ t : Tree, (visits t).Pairwise Visit.Earlier
  | .node kind line fields => by
    rw [visits, List.pairwise_cons]
    refine ⟨fun w hw => ?_, pairwise_earlier_visitsInFields _ 0 fields⟩
    obtain ⟨step, rest, hposition, _⟩ := exists_step_of_mem_visitsInFields hw
    rw [Visit.Earlier, hposition]
    exact List.Lex.nil
  | .absent | .text _ | .number _ | .literal _ | .list _ => by
    rw [visits]
    · exact List.Pairwise.nil
    · simp

theorem pairwise_earlier_visitsInFields (owner : Tree) (place : Nat) :
    ∀ fields : List Tree, (visitsInFields owner place fields).Pairwise Visit.Earlier
  | [] => by
    rw [visitsInFields]
    exact List.Pairwise.nil
  | .list items :: rest => by
    rw [visitsInFields, List.pairwise_append]
    refine ⟨pairwise_earlier_visitsInItems owner place 0 items,
      pairwise_earlier_visitsInFields owner (place + 1) rest, fun w hw w' hw' => ?_⟩
    obtain ⟨step, _, hposition, hfield, _⟩ := exists_step_of_mem_visitsInItems hw
    obtain ⟨step', _, hposition', hplace⟩ := exists_step_of_mem_visitsInFields hw'
    rw [Visit.Earlier, hposition, hposition']
    exact List.Lex.rel (Or.inl (by omega))
  | .node kind line fields :: rest => by
    rw [visitsInFields, List.pairwise_append]
    · refine ⟨pairwise_earlier_under _ (pairwise_earlier_visits _),
        pairwise_earlier_visitsInFields owner (place + 1) rest, fun w hw w' hw' => ?_⟩
      obtain ⟨v, _, rfl⟩ := List.mem_map.mp hw
      obtain ⟨step', _, hposition', hplace⟩ := exists_step_of_mem_visitsInFields hw'
      rw [Visit.Earlier, hposition']
      exact List.Lex.rel (Or.inl hplace)
    · simp
  | .absent :: rest | .text _ :: rest | .number _ :: rest | .literal _ :: rest => by
    rw [visitsInFields, visits, List.map_nil, List.nil_append]
    · exact pairwise_earlier_visitsInFields owner (place + 1) rest
    all_goals simp

theorem pairwise_earlier_visitsInItems (owner : Tree) (place item : Nat) :
    ∀ items : List Tree, (visitsInItems owner place item items).Pairwise Visit.Earlier
  | [] => by
    rw [visitsInItems]
    exact List.Pairwise.nil
  | t :: rest => by
    rw [visitsInItems, List.pairwise_append]
    refine ⟨pairwise_earlier_under _ (pairwise_earlier_visits t),
      pairwise_earlier_visitsInItems owner place (item + 1) rest, fun w hw w' hw' => ?_⟩
    obtain ⟨v, _, rfl⟩ := List.mem_map.mp hw
    obtain ⟨step', _, hposition', hfield, hitem⟩ := exists_step_of_mem_visitsInItems hw'
    rw [Visit.Earlier, hposition']
    exact List.Lex.rel (Or.inr ⟨hfield.symm, hitem⟩)

end

mutual

/-- The visited nodes are the nodes of the tree. -/
theorem nodes_eq_map_visits : ∀ t : Tree, nodes t = (visits t).map Visit.node
  | .node kind line fields => by
    rw [nodes, visits, List.map_cons, nodesInFields_eq_map_visits _ 0 fields]
  | .absent | .text _ | .number _ | .literal _ | .list _ => by simp [nodes, visits]

theorem nodesInFields_eq_map_visits (owner : Tree) (place : Nat) :
    ∀ fields : List Tree,
      nodesInFields fields = (visitsInFields owner place fields).map Visit.node
  | [] => by rw [nodesInFields, visitsInFields, List.map_nil]
  | .list items :: rest => by
    rw [nodesInFields, visitsInFields, List.map_append,
      nodesInItems_eq_map_visits owner place 0 items,
      nodesInFields_eq_map_visits owner (place + 1) rest]
  | .node kind line fields :: rest => by
    rw [nodesInFields, visitsInFields, List.map_append, List.map_map,
      nodes_eq_map_visits (.node kind line fields),
      nodesInFields_eq_map_visits owner (place + 1) rest]
    · rfl
    all_goals simp
  | .absent :: rest | .text _ :: rest | .number _ :: rest | .literal _ :: rest => by
    rw [nodesInFields, visitsInFields, nodes, visits,
      nodesInFields_eq_map_visits owner (place + 1) rest]
    · rfl
    all_goals simp

theorem nodesInItems_eq_map_visits (owner : Tree) (place item : Nat) :
    ∀ items : List Tree, nodesInItems items = (visitsInItems owner place item items).map Visit.node
  | [] => by rw [nodesInItems, visitsInItems, List.map_nil]
  | t :: rest => by
    rw [nodesInItems, visitsInItems, List.map_append, List.map_map, nodes_eq_map_visits t,
      nodesInItems_eq_map_visits owner place (item + 1) rest]
    rfl

end

end Tree

end MutationTesting
