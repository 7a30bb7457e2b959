import MutationTesting.Proofs.Tree.Position

/-!
# Grafting

A graft puts a tree in the place of the node at a position.  A list that comes in the place of an
item is spliced into the list around it.  All nodes that are neither above nor below the position
stay what they were; those behind a splice move to a later item, or to an earlier one if the splice
is empty.
-/

namespace MutationTesting.Tree

/-- What stands for a tree among the items of a list: a list gives its own items. -/
def asItems : Tree → List Tree
  | .list items => items
  | t => [t]

/-- Changes what a field holds at an item.  A list that comes in the place of an item is spliced
in, between the items before and those after. -/
def changeSlot (change : Tree → Tree) (item : Nat) : Tree → Tree
  | .list items =>
    .list (items.take item ++ asItems (change (items.getD item .absent)) ++ items.drop (item + 1))
  | content => change content

/-- The tree with `new` in place of the node at a position, and everything else as it was. -/
def graft (new : Tree) : Position → Tree → Tree
  | [], _ => new
  | step :: rest, .node kind line fields =>
    .node kind line (fields.modify step.field (changeSlot (graft new rest) step.item))
  | _, t => t

/-- Where a node stands after a graft at `hole` that puts `width` items in the place of one.  Only
what follows the hole in the same list moves. -/
def Position.moved (width : Nat) : Position → Position → Position
  | hole :: below, step :: rest =>
    if step = hole then step :: Position.moved width below rest
    else if below = [] ∧ step.field = hole.field ∧ hole.item < step.item then
      ⟨step.field, step.item + width - 1⟩ :: rest
    else step :: rest
  | _, q => q

theorem slot?_changeSlot_self {change : Tree → Tree} {item : Nat} {content t : Tree}
    (hslot : slot? item content = some t) (hnode : (change t).isNode = true) :
    slot? item (changeSlot change item content) = some (change t) := by
  cases content with
  | list items =>
      rw [slot?, Option.filter_eq_some_iff] at hslot
      obtain ⟨hlt, -⟩ := List.getElem?_eq_some_iff.mp hslot.1
      have hitems : asItems (change (items.getD item .absent)) = [change t] := by
        rw [List.getD_eq_getElem?_getD, hslot.1, Option.getD_some]
        cases hchange : change t with
        | list _ => simp [hchange, isNode] at hnode
        | _ => rfl
      have hlength : (items.take item).length = item := by
        rw [List.length_take]
        omega
      rw [changeSlot, hitems, slot?, List.append_assoc, List.getElem?_append_right (by omega),
        hlength, Nat.sub_self]
      simp [hnode]
  | node kind line fields =>
      rw [slot?] at hslot
      split at hslot
      next hitem =>
          cases hslot
          rw [changeSlot, hitem]
          · cases hchange : change (.node kind line fields) with
            | node _ _ _ => rfl
            | _ => simp [hchange, isNode] at hnode
          · simp
      next => cases hslot
  | _ => cases hslot

theorem slot?_changeSlot_of_ne {change : Tree → Tree} {item other : Nat} {content t n : Tree}
    (hslot : slot? item content = some t) (hother : slot? other content = some n)
    (hne : other ≠ item) :
    slot? (if item < other then other + (asItems (change t)).length - 1 else other)
      (changeSlot change item content) = some n := by
  cases content with
  | list items =>
      rw [slot?, Option.filter_eq_some_iff] at hslot hother
      obtain ⟨hlt, -⟩ := List.getElem?_eq_some_iff.mp hslot.1
      have hitems : items.getD item .absent = t := by
        rw [List.getD_eq_getElem?_getD, hslot.1, Option.getD_some]
      have hlength : (items.take item).length = item := by
        rw [List.length_take]
        omega
      rw [changeSlot, hitems, slot?, Option.filter_eq_some_iff, List.append_assoc]
      refine ⟨?_, hother.2⟩
      rw [← hother.1]
      split
      next hafter =>
          rw [List.getElem?_append_right (by omega), List.getElem?_append_right (by omega),
            List.getElem?_drop]
          congr 1
          omega
      next hbefore =>
          rw [List.getElem?_append_left (by omega), List.getElem?_take_of_lt (by omega)]
  | node kind line fields =>
      rw [slot?] at hslot hother
      split at hslot
      · split at hother
        · omega
        · cases hother
      · cases hslot
  | _ => cases hslot

theorem isNode_graft_cons {new t : Tree} {step : Step} {rest : Position} (hnode : t.isNode = true) :
    (graft new (step :: rest) t).isNode = true := by
  cases t with
  | node kind line fields => rfl
  | _ => cases hnode

theorem length_asItems {t : Tree} (hnode : t.isNode = true) : (asItems t).length = 1 := by
  cases t with
  | node kind line fields => rfl
  | _ => cases hnode

theorem slot?_modify_self {change : Tree → Tree} {hole : Step} {fields : List Tree} {t : Tree}
    (hhole : fields[hole.field]?.bind (slot? hole.item) = some t)
    (hnode : (change t).isNode = true) :
    (fields.modify hole.field (changeSlot change hole.item))[hole.field]?.bind (slot? hole.item) =
      some (change t) := by
  obtain ⟨content, hcontent, hslot⟩ := Option.bind_eq_some_iff.mp hhole
  rw [List.getElem?_modify, hcontent]
  simpa using slot?_changeSlot_self hslot hnode

/-- Where the node of one slot is after a change in another one. -/
theorem slot?_modify_of_ne (change : Tree → Tree) {hole step : Step} {fields : List Tree}
    {t n : Tree}
    (hhole : fields[hole.field]?.bind (slot? hole.item) = some t)
    (hstep : fields[step.field]?.bind (slot? step.item) = some n) (hne : step ≠ hole) :
    (fields.modify hole.field (changeSlot change hole.item))[step.field]?.bind
      (slot? (if step.field = hole.field ∧ hole.item < step.item
        then step.item + (asItems (change t)).length - 1 else step.item)) = some n := by
  obtain ⟨content, hcontent, hhole⟩ := Option.bind_eq_some_iff.mp hhole
  obtain ⟨content', hcontent', hstep⟩ := Option.bind_eq_some_iff.mp hstep
  rw [List.getElem?_modify, hcontent']
  by_cases hfield : step.field = hole.field
  · have hitem : step.item ≠ hole.item := fun hitem => hne (by
      cases step
      cases hole
      simp_all)
    rw [hfield, hcontent] at hcontent'
    cases hcontent'
    simpa [hfield] using slot?_changeSlot_of_ne hhole hstep hitem
  · simpa [hfield, Ne.symm hfield] using hstep

/-- A graft leaves every node as it was that is neither above nor below it. -/
theorem nodeAt?_graft_of_apart {new old t n : Tree} {p q : Position} (hp : nodeAt? p t = some old)
    (hq : nodeAt? q t = some n) (hbelow : ¬ p <+: q) (habove : ¬ q <+: p) :
    nodeAt? (Position.moved (asItems new).length p q) (graft new p t) = some n := by
  induction p generalizing t q with
  | nil => exact absurd List.nil_prefix hbelow
  | cons hole below ih =>
      cases q with
      | nil => exact absurd List.nil_prefix habove
      | cons step rest =>
          cases t with
          | node kind line fields =>
              obtain ⟨child, hchild, hold⟩ := Option.bind_eq_some_iff.mp hp
              obtain ⟨other, hother, hrest⟩ := Option.bind_eq_some_iff.mp hq
              have hnode : below ≠ [] → (graft new below child).isNode = true := by
                intro hdeep
                obtain ⟨next, further, rfl⟩ := List.exists_cons_of_ne_nil hdeep
                exact isNode_graft_cons (isNode_of_slot?
                  (Option.bind_eq_some_iff.mp hchild).choose_spec.2)
              rw [Position.moved]
              by_cases hstep : step = hole
              · subst hstep
                rw [List.cons_prefix_cons] at hbelow habove
                have hdeep : below ≠ [] := by
                  rintro rfl
                  exact hbelow ⟨rfl, List.nil_prefix⟩
                rw [hchild] at hother
                cases hother
                rw [if_pos rfl]
                exact Option.bind_eq_some_iff.mpr ⟨graft new below child,
                  slot?_modify_self hchild (hnode hdeep),
                  ih hold hrest (fun h => hbelow ⟨rfl, h⟩) (fun h => habove ⟨rfl, h⟩)⟩
              · have hslot := slot?_modify_of_ne (graft new below) hchild hother hstep
                have hfirst : (if below = [] ∧ step.field = hole.field ∧ hole.item < step.item then
                    (⟨step.field, step.item + (asItems new).length - 1⟩ :: rest : Position)
                      else step :: rest) =
                    ⟨step.field, if step.field = hole.field ∧ hole.item < step.item then
                      step.item + (asItems (graft new below child)).length - 1
                        else step.item⟩ :: rest := by
                  by_cases hdeep : below = []
                  · subst hdeep
                    by_cases hafter : step.field = hole.field ∧ hole.item < step.item
                    · rw [if_pos ⟨rfl, hafter⟩, if_pos hafter, graft]
                    · rw [if_neg fun h => hafter h.2, if_neg hafter]
                  · rw [length_asItems (hnode hdeep)]
                    simp [hdeep]
                rw [if_neg hstep, hfirst]
                exact Option.bind_eq_some_iff.mpr ⟨other, hslot, hrest⟩
          | _ => simp [nodeAt?, fields] at hq

end MutationTesting.Tree
