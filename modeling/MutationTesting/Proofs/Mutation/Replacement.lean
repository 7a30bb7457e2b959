import MutationTesting.Proofs.Mutation.Visit
import MutationTesting.Proofs.Tree.Graft

/-!
# Replacing the first node that fits

`replaceFirst` goes through a tree and rebuilds it on the way.  What comes out is a graft at the
first visit that is a hit: the node there is replaced, and the nodes before it, after it and above
it stay what they were.
-/

namespace MutationTesting.Tree

/-- A graft into the fields of a node from a place on. -/
def graftInFields (new : Tree) (place : Nat) : Position → List Tree → List Tree
  | [], fields => fields
  | step :: rest, fields =>
    fields.modify (step.field - place) (changeSlot (graft new rest) step.item)

/-- A graft into the items of a list from an item on. -/
def graftInItems (new : Tree) (item : Nat) : Position → List Tree → List Tree
  | [], items => items
  | step :: rest, items =>
    items.take (step.item - item) ++
      asItems (graft new rest (items.getD (step.item - item) .absent)) ++
        items.drop (step.item - item + 1)

theorem graftInFields_first {new content : Tree} {place : Nat} {step : Step} {rest : Position}
    {fields : List Tree} (hplace : step.field = place) :
    graftInFields new place (step :: rest) (content :: fields) =
      changeSlot (graft new rest) step.item content :: fields := by
  rw [graftInFields, hplace, Nat.sub_self, List.modify_zero_cons]

theorem graftInFields_later {new content : Tree} {place : Nat} {step : Step} {rest : Position}
    {fields : List Tree} (hplace : place + 1 ≤ step.field) :
    graftInFields new place (step :: rest) (content :: fields) =
      content :: graftInFields new (place + 1) (step :: rest) fields := by
  have hshift : step.field - place = step.field - (place + 1) + 1 := by omega
  rw [graftInFields, hshift, List.modify_succ_cons, graftInFields]

theorem graftInItems_first {new t : Tree} {item : Nat} {step : Step} {rest : Position}
    {items : List Tree} (hitem : step.item = item) :
    graftInItems new item (step :: rest) (t :: items) = asItems (graft new rest t) ++ items := by
  simp [graftInItems, hitem]

theorem graftInItems_later {new t : Tree} {item : Nat} {step : Step} {rest : Position}
    {items : List Tree} (hitem : item + 1 ≤ step.item) :
    graftInItems new item (step :: rest) (t :: items) =
      t :: graftInItems new (item + 1) (step :: rest) items := by
  have hshift : step.item - item = step.item - (item + 1) + 1 := by omega
  simp [graftInItems, hshift]

variable (hit : Tree → Bool) (new : Tree)

mutual

/-- The first visit that is a hit decides what becomes of a tree. -/
theorem replaceFirst_eq_graft : ∀ t : Tree,
    replaceFirst hit new t =
      ((visits t).find? fun v => hit v.node).elim (t, false) fun v => (graft new v.position t, true)
  | .node kind line fields => by
    rw [replaceFirst, visits, List.find?_cons]
    cases hroot : hit (.node kind line fields) with
    | true => rfl
    | false =>
        rw [replaceInFields_eq_graft (.node kind line fields) 0 fields]
        cases hfound : (visitsInFields (.node kind line fields) 0 fields).find?
            fun v => hit v.node with
        | none => rfl
        | some v =>
            obtain ⟨step, rest, hposition, _⟩ :=
              exists_step_of_mem_visitsInFields (List.mem_of_find?_eq_some hfound)
            simp only [Option.elim, hposition]
            rfl
  | .absent | .text _ | .number _ | .literal _ | .list _ => by simp [replaceFirst, visits]

theorem replaceInFields_eq_graft (owner : Tree) (place : Nat) : ∀ fields : List Tree,
    replaceInFields hit new fields =
      ((visitsInFields owner place fields).find? fun v => hit v.node).elim (fields, false)
        fun v => (graftInFields new place v.position fields, true)
  | [] => by rw [replaceInFields, visitsInFields, List.find?_nil, Option.elim]
  | .list items :: rest => by
    rw [replaceInFields, visitsInFields, List.find?_append,
      replaceInItems_eq_graft owner place 0 items,
      replaceInFields_eq_graft owner (place + 1) rest]
    cases hitems : (visitsInItems owner place 0 items).find? fun v => hit v.node with
    | none =>
        cases hrest : (visitsInFields owner (place + 1) rest).find? fun v => hit v.node with
        | none => rfl
        | some v =>
            obtain ⟨step, above, hposition, hplace⟩ :=
              exists_step_of_mem_visitsInFields (List.mem_of_find?_eq_some hrest)
            simp [hposition, graftInFields_later hplace]
    | some v =>
        obtain ⟨step, above, hposition, hplace, _⟩ :=
          exists_step_of_mem_visitsInItems (List.mem_of_find?_eq_some hitems)
        simp [hposition, graftInFields_first hplace, changeSlot, graftInItems]
  | .node kind line fields :: rest => by
    rw [replaceInFields, visitsInFields, List.find?_append, List.find?_map,
      replaceFirst_eq_graft (.node kind line fields),
      replaceInFields_eq_graft owner (place + 1) rest]
    · cases hnode : (visits (.node kind line fields)).find? fun v => hit v.node with
      | none =>
          cases hrest : (visitsInFields owner (place + 1) rest).find? fun v => hit v.node with
          | none => simp [Function.comp_def, hnode]
          | some v =>
              obtain ⟨step, above, hposition, hplace⟩ :=
                exists_step_of_mem_visitsInFields (List.mem_of_find?_eq_some hrest)
              simp [Function.comp_def, hnode, hposition, graftInFields_later hplace]
      | some v =>
          simp [Function.comp_def, hnode, graftInFields_first, Ancestor.step, changeSlot]
    all_goals simp
  | .absent :: rest | .text _ :: rest | .number _ :: rest | .literal _ :: rest => by
    rw [replaceInFields, visitsInFields, replaceFirst, visits,
      replaceInFields_eq_graft owner (place + 1) rest]
    · cases hrest : (visitsInFields owner (place + 1) rest).find? fun v => hit v.node with
      | none => simp [hrest]
      | some v =>
          obtain ⟨step, above, hposition, hplace⟩ :=
            exists_step_of_mem_visitsInFields (List.mem_of_find?_eq_some hrest)
          simp [hrest, hposition, graftInFields_later hplace]
    all_goals simp

theorem replaceInItems_eq_graft (owner : Tree) (place item : Nat) : ∀ items : List Tree,
    replaceInItems hit new items =
      ((visitsInItems owner place item items).find? fun v => hit v.node).elim (items, false)
        fun v => (graftInItems new item v.position items, true)
  | [] => by rw [replaceInItems, visitsInItems, List.find?_nil, Option.elim]
  | t :: rest => by
    rw [replaceInItems, visitsInItems, List.find?_append, List.find?_map,
      replaceFirst_eq_graft t, replaceInItems_eq_graft owner place (item + 1) rest]
    cases ht : (visits t).find? fun v => hit v.node with
    | none =>
        cases hrest : (visitsInItems owner place (item + 1) rest).find? fun v => hit v.node with
        | none => simp [Function.comp_def, ht]
        | some v =>
            obtain ⟨step, above, hposition, _, hitem⟩ :=
              exists_step_of_mem_visitsInItems (List.mem_of_find?_eq_some hrest)
            simp [Function.comp_def, ht, hposition, graftInItems_later hitem]
    | some v =>
        have hstep : (Ancestor.mk owner place item).step.item = item := rfl
        simp only [Function.comp_def, Visit.node_under, ht, Option.map_some, Option.some_or,
          Option.elim, if_true, Visit.position_under, graftInItems_first hstep]
        cases graft new v.position t <;> rfl

end

end MutationTesting.Tree
