import MutationTesting.Proofs.Tree.Graft
import MutationTesting.Tree.Grammar

/-!
# Grafts and the grammar

A tree stays well-formed when a node gives way to a node of its sort, or a statement to one or more
statements.  Every list around the place of the graft keeps an item, so no block becomes empty.
-/

namespace MutationTesting

namespace Content

/-- The sort of the node that a field may hold outside a list. -/
def single? : Content → Option NodeSort
  | .node sort => some sort
  | .optional content => content.single?
  | _ => none

theorem admits_node_iff {content : Content} {kind : Kind} {line : Nat} {fields : List Tree} :
    content.admits (.node kind line fields) = true ↔ content.single? = some kind.sort := by
  induction content with
  | node sort => simp [admits, single?, eq_comm]
  | optional content ih => simpa [admits, single?] using ih
  | _ => simp [admits, single?]

theorem admits_list_of_length_le {content : Content} {items items' : List Tree}
    (hadmits : content.admits (.list items) = true) (hlength : items.length ≤ items'.length) :
    content.admits (.list items') = true := by
  induction content with
  | sequence least item =>
      have hleast : least ≤ items.length := by simpa [admits] using hadmits
      simpa [admits] using hleast.trans hlength
  | optional content ih => exact ih hadmits
  | _ => cases hadmits

theorem single?_item_of_single? {content : Content} {sort : NodeSort}
    (hsingle : content.single? = some sort) : content.item.single? = some sort := by
  induction content with
  | optional content ih => exact ih hsingle
  | sequence least item => cases hsingle
  | _ => exact hsingle

end Content

/-- Whether nodes of a sort have no statements below. -/
def NodeSort.isBlockFree : NodeSort → Bool
  | .module | .statement | .exceptHandler | .matchCase => false
  | _ => true

/-- Statements stand in lists only. -/
theorem Kind.single?_ne_statement (kind : Kind) :
    ∀ content ∈ kind.contents, content.single? ≠ some .statement := by
  cases kind <;>
    simp [contents, Content.single?, Content.expression, Content.many, Content.block,
      Content.statements, Content.expressions]

theorem Kind.isBlockFree_of_mem_contents {kind : Kind} (hkind : kind.sort.isBlockFree = true) :
    ∀ content ∈ kind.contents, ∀ sort, content.item.single? = some sort →
      sort.isBlockFree = true := by
  cases kind <;>
    simp_all [sort, contents, NodeSort.isBlockFree, Content.single?, Content.item,
      Content.expression, Content.many, Content.expressions]

/-- Whether a field holds a block of statements. -/
def Kind.isBlock (kind : Kind) (place : Nat) : Bool :=
  kind.contents[place]?.any fun content => decide (content.item = .node .statement)

namespace Tree

theorem itemsConform_iff {item : Content} {items : List Tree} :
    itemsConform item items = true ↔ ∀ t ∈ items, conforms item t = true := by
  induction items with
  | nil => simp [itemsConform]
  | cons first rest ih => rw [itemsConform, Bool.and_eq_true, ih, List.forall_mem_cons]

theorem conforms_list_iff {content : Content} {items : List Tree} :
    conforms content (.list items) = true ↔
      content.admits (.list items) = true ∧ ∀ t ∈ items, conforms content.item t = true := by
  rw [conforms, Bool.and_eq_true, itemsConform_iff]

theorem fieldsConform_iff {contents : List Content} {fields : List Tree} :
    fieldsConform contents fields = true ↔
      contents.length = fields.length ∧ ∀ (place : Nat) (content : Content) (t : Tree),
        contents[place]? = some content → fields[place]? = some t → conforms content t = true := by
  induction contents generalizing fields with
  | nil => cases fields <;> simp [fieldsConform]
  | cons content contents ih =>
      cases fields with
      | nil => simp [fieldsConform]
      | cons t rest =>
          rw [fieldsConform, Bool.and_eq_true, ih, List.length_cons, List.length_cons,
            Nat.add_right_cancel_iff]
          constructor
          · rintro ⟨hfirst, hlength, hrest⟩
            refine ⟨hlength, fun place => ?_⟩
            cases place with
            | zero => simpa using hfirst
            | succ place => simpa using hrest place
          · rintro ⟨hlength, hall⟩
            exact ⟨hall 0 content t rfl rfl, hlength, fun place => hall (place + 1)⟩

theorem conforms_node_iff {content : Content} {kind : Kind} {line : Nat} {fields : List Tree} :
    conforms content (.node kind line fields) = true ↔
      content.single? = some kind.sort ∧ fieldsConform kind.contents fields = true := by
  rw [conforms, Bool.and_eq_true, Content.admits_node_iff]

theorem isWellFormed_node_iff {sort : NodeSort} {kind : Kind} {line : Nat} {fields : List Tree} :
    IsWellFormed sort (.node kind line fields) ↔
      sort = kind.sort ∧ fieldsConform kind.contents fields = true := by
  rw [IsWellFormed, conforms_node_iff, Content.single?, Option.some_inj]

theorem IsWellFormed.exists_node {sort : NodeSort} {t : Tree} (ht : IsWellFormed sort t) :
    ∃ kind line fields, t = .node kind line fields ∧ sort = kind.sort := by
  cases t with
  | node kind line fields => exact ⟨kind, line, fields, rfl, (isWellFormed_node_iff.mp ht).1⟩
  | _ => simp [IsWellFormed, conforms, Content.admits] at ht

theorem IsWellFormed.sort_eq {sort sort' : NodeSort} {t : Tree} (ht : IsWellFormed sort t)
    (ht' : IsWellFormed sort' t) : sort = sort' := by
  obtain ⟨kind, line, fields, rfl, rfl⟩ := ht.exists_node
  exact (isWellFormed_node_iff.mp ht').1.symm

/-- A field that may hold one well-formed node of a sort may hold any other one. -/
theorem conforms_of_isWellFormed {content : Content} {sort : NodeSort} {t t' : Tree}
    (ht : conforms content t = true) (hsort : IsWellFormed sort t) (hsort' : IsWellFormed sort t') :
    conforms content t' = true := by
  obtain ⟨kind, line, fields, rfl, rfl⟩ := hsort.exists_node
  obtain ⟨kind', line', fields', rfl, hkind⟩ := hsort'.exists_node
  rw [conforms_node_iff] at ht ⊢
  exact ⟨hkind ▸ ht.1, (isWellFormed_node_iff.mp hsort').2⟩

theorem exists_isWellFormed_of_conforms {content : Content} {t : Tree}
    (ht : conforms content t = true) (hnode : t.isNode = true) :
    ∃ sort, content.single? = some sort ∧ IsWellFormed sort t := by
  cases t with
  | node kind line fields =>
      obtain ⟨hsingle, hfields⟩ := conforms_node_iff.mp ht
      exact ⟨kind.sort, hsingle, isWellFormed_node_iff.mpr ⟨rfl, hfields⟩⟩
  | _ => cases hnode

/-- A node right in a field is well-formed, and of the sort that the field may hold. -/
theorem exists_isWellFormed_of_slot? {content : Content} {item : Nat} {t child : Tree}
    (ht : conforms content t = true) (hslot : slot? item t = some child) :
    ∃ sort, content.item.single? = some sort ∧ IsWellFormed sort child := by
  have hnode := isNode_of_slot? hslot
  cases t with
  | list items =>
      rw [slot?, Option.filter_eq_some_iff] at hslot
      exact exists_isWellFormed_of_conforms
        ((conforms_list_iff.mp ht).2 child (List.mem_of_getElem? hslot.1)) hnode
  | node kind line fields =>
      rw [slot?, Option.ite_none_right_eq_some] at hslot
      obtain ⟨-, hchild⟩ := hslot
      cases hchild
      obtain ⟨sort, hsingle, hsort⟩ := exists_isWellFormed_of_conforms ht hnode
      exact ⟨sort, Content.single?_item_of_single? hsingle, hsort⟩
  | _ => cases hslot

/-- A node in a field of a well-formed node is well-formed, and of a sort that the grammar has
there. -/
theorem IsWellFormed.exists_child {sort : NodeSort} {kind : Kind} {line : Nat}
    {fields : List Tree} {step : Step} {child : Tree}
    (ht : IsWellFormed sort (.node kind line fields))
    (hchild : fields[step.field]?.bind (slot? step.item) = some child) :
    ∃ content ∈ kind.contents, ∃ sort', content.item.single? = some sort' ∧
      IsWellFormed sort' child := by
  obtain ⟨t, hfield, hslot⟩ := Option.bind_eq_some_iff.mp hchild
  obtain ⟨hlength, hfields⟩ := fieldsConform_iff.mp (isWellFormed_node_iff.mp ht).2
  have hlt : step.field < kind.contents.length := hlength ▸ (List.getElem?_eq_some_iff.mp hfield).1
  have hcontent := List.getElem?_eq_getElem hlt
  exact ⟨_, List.mem_of_getElem? hcontent,
    exists_isWellFormed_of_slot? (hfields step.field _ t hcontent hfield) hslot⟩

/-- Every node below a well-formed one is well-formed. -/
theorem exists_isWellFormed_of_nodeAt? {sort : NodeSort} {p : Position} {t n : Tree}
    (ht : IsWellFormed sort t) (hnode : nodeAt? p t = some n) : ∃ sort', IsWellFormed sort' n := by
  induction p generalizing sort t with
  | nil =>
      rw [nodeAt?, Option.ite_none_right_eq_some] at hnode
      obtain ⟨-, hn⟩ := hnode
      cases hn
      exact ⟨sort, ht⟩
  | cons step rest ih =>
      obtain ⟨kind, line, fields, rfl, rfl⟩ := ht.exists_node
      obtain ⟨child, hchild, hrest⟩ := Option.bind_eq_some_iff.mp hnode
      obtain ⟨_, _, _, _, hsort⟩ := ht.exists_child hchild
      exact ih hsort hrest

/-- What may come in the place of a node: a node of its sort, or for a statement a block. -/
def Suits (sort : NodeSort) (new : Tree) : Prop :=
  IsWellFormed sort new ∨ sort = .statement ∧ conforms .block new = true

theorem Suits.asItems {sort : NodeSort} {new : Tree} (hnew : Suits sort new) :
    asItems new ≠ [] ∧ ∀ t ∈ asItems new, IsWellFormed sort t := by
  rcases hnew with hnew | ⟨rfl, hnew⟩
  · obtain ⟨kind, line, fields, rfl, -⟩ := hnew.exists_node
    exact ⟨List.cons_ne_nil _ _, List.forall_mem_singleton.mpr hnew⟩
  · cases new with
    | list items =>
        obtain ⟨hlength, hitems⟩ := conforms_list_iff.mp hnew
        refine ⟨?_, hitems⟩
        rintro rfl
        cases hlength
    | node kind line fields => cases (conforms_node_iff.mp hnew).1
    | _ => cases hnew

/-- A field still holds what it should when a node in it gives way to what suits its sort. -/
theorem conforms_changeSlot {content : Content} {change : Tree → Tree} {item : Nat}
    {t child : Tree} {sort : NodeSort} (hcontent : content.single? ≠ some .statement)
    (ht : conforms content t = true) (hslot : slot? item t = some child)
    (hchild : IsWellFormed sort child) (hnew : Suits sort (change child)) :
    conforms content (changeSlot change item t) = true := by
  cases t with
  | list items =>
      rw [slot?, Option.filter_eq_some_iff] at hslot
      obtain ⟨hlt, -⟩ := List.getElem?_eq_some_iff.mp hslot.1
      obtain ⟨hadmits, hitems⟩ := conforms_list_iff.mp ht
      obtain ⟨hsome, hsort⟩ := hnew.asItems
      rw [changeSlot, List.getD_eq_getElem?_getD, hslot.1, Option.getD_some, conforms_list_iff]
      constructor
      · refine Content.admits_list_of_length_le hadmits ?_
        have hwidth := List.length_pos_iff.mpr hsome
        rw [List.length_append, List.length_append, List.length_take, List.length_drop]
        omega
      · intro x hx
        rw [List.mem_append, List.mem_append] at hx
        rcases hx with (hbefore | hplace) | hafter
        · exact hitems x (List.mem_of_mem_take hbefore)
        · exact conforms_of_isWellFormed (hitems child (List.mem_of_getElem? hslot.1)) hchild
            (hsort x hplace)
        · exact hitems x (List.mem_of_mem_drop hafter)
  | node kind line fields =>
      rw [slot?, Option.ite_none_right_eq_some] at hslot
      obtain ⟨rfl, hslot⟩ := hslot
      cases hslot
      have hsingle := (conforms_node_iff.mp ht).1
      rw [← (isWellFormed_node_iff.mp hchild).1] at hsingle
      rcases hnew with hnew | ⟨rfl, -⟩
      · exact conforms_of_isWellFormed ht hchild hnew
      · exact absurd hsingle hcontent
  | _ => cases hslot

/-- A graft of what suits the sort of the node there keeps a tree well-formed. -/
theorem suits_graft {new old t : Tree} {p : Position} {sort sort' : NodeSort}
    (ht : IsWellFormed sort t) (hp : nodeAt? p t = some old) (hold : IsWellFormed sort' old)
    (hnew : Suits sort' new) : Suits sort (graft new p t) := by
  induction p generalizing sort t with
  | nil =>
      rw [nodeAt?, Option.ite_none_right_eq_some] at hp
      obtain ⟨-, hp⟩ := hp
      cases hp
      rwa [graft, ht.sort_eq hold]
  | cons step rest ih =>
      obtain ⟨kind, line, fields, rfl, rfl⟩ := ht.exists_node
      obtain ⟨child, hchild, hrest⟩ := Option.bind_eq_some_iff.mp hp
      obtain ⟨slot, hfield, hslot⟩ := Option.bind_eq_some_iff.mp hchild
      rw [Tree.fields] at hfield
      obtain ⟨hlength, hfields⟩ := fieldsConform_iff.mp (isWellFormed_node_iff.mp ht).2
      refine Or.inl (isWellFormed_node_iff.mpr ⟨rfl, fieldsConform_iff.mpr ⟨?_, ?_⟩⟩)
      · rw [List.length_modify, hlength]
      · intro place content field hcontent hplace
        by_cases heq : step.field = place
        · subst heq
          rw [List.getElem?_modify_eq, hfield] at hplace
          cases hplace
          have hconforms := hfields _ content slot hcontent hfield
          obtain ⟨sort, -, hsort⟩ := exists_isWellFormed_of_slot? hconforms hslot
          exact conforms_changeSlot
            (kind.single?_ne_statement content (List.mem_of_getElem? hcontent)) hconforms hslot
            hsort (ih hsort hrest)
        · rw [List.getElem?_modify_ne _ _ heq] at hplace
          exact hfields place content field hcontent hplace

theorem moved_of_above {width : Nat} {p q : Position} (habove : q <+: p) :
    Position.moved width p q = q := by
  induction p generalizing q with
  | nil =>
      rw [List.prefix_nil.mp habove]
      rfl
  | cons hole below ih =>
      cases q with
      | nil => rfl
      | cons step rest =>
          obtain ⟨rfl, hrest⟩ := List.cons_prefix_cons.mp habove
          rw [Position.moved, if_pos rfl, ih hrest]

theorem items_changeSlot_ne_nil {change : Tree → Tree} {item : Nat} {t child : Tree}
    (hslot : slot? item t = some child) (hchange : asItems (change child) ≠ [])
    (hitems : t.items ≠ []) : (changeSlot change item t).items ≠ [] := by
  cases t with
  | list items =>
      rw [slot?, Option.filter_eq_some_iff] at hslot
      rw [changeSlot, List.getD_eq_getElem?_getD, hslot.1, Option.getD_some, Tree.items]
      simp [hchange]
  | _ => exact absurd rfl hitems

theorem asItems_ne_nil_of_isNode {t : Tree} (hnode : t.isNode = true) : asItems t ≠ [] := by
  rw [← List.length_pos_iff, length_asItems hnode]
  exact Nat.one_pos

theorem field_node {kind : Kind} {line place : Nat} {fields : List Tree} :
    (node kind line fields).field place = fields[place]?.getD .absent :=
  List.getD_eq_getElem?_getD

/-- A node above a graft keeps its kind, and an item in every field that had one. -/
theorem nodeAt?_graft_of_above {new old t n : Tree} {p q : Position} (hp : nodeAt? p t = some old)
    (hq : nodeAt? q t = some n) (habove : q <+: p) (hne : q ≠ p) (hnew : asItems new ≠ []) :
    ∃ n', nodeAt? q (graft new p t) = some n' ∧ n'.kind? = n.kind? ∧
      ∀ place, (n.field place).items ≠ [] → (n'.field place).items ≠ [] := by
  induction p generalizing t q with
  | nil => exact absurd (List.prefix_nil.mp habove) hne
  | cons hole below ih =>
      cases t with
      | node kind line fields =>
          obtain ⟨child, hchild, hold⟩ := Option.bind_eq_some_iff.mp hp
          have hdeep : below ≠ [] → (graft new below child).isNode = true := by
            intro hdeep
            obtain ⟨next, further, rfl⟩ := List.exists_cons_of_ne_nil hdeep
            exact isNode_graft_cons (isNode_of_slot?
              (Option.bind_eq_some_iff.mp hchild).choose_spec.2)
          cases q with
          | nil =>
              cases hq
              refine ⟨_, rfl, rfl, fun place hplace => ?_⟩
              obtain ⟨slot, hfield, hslot⟩ := Option.bind_eq_some_iff.mp hchild
              rw [Tree.fields] at hfield
              rw [field_node] at hplace
              rw [graft, field_node]
              by_cases heq : hole.field = place
              · subst heq
                rw [List.getElem?_modify_eq, hfield]
                rw [hfield] at hplace
                refine items_changeSlot_ne_nil hslot ?_ hplace
                by_cases hbelow : below = []
                · rwa [hbelow, graft]
                · exact asItems_ne_nil_of_isNode (hdeep hbelow)
              · rwa [List.getElem?_modify_ne _ _ heq]
          | cons step rest =>
              obtain ⟨rfl, hunder⟩ := List.cons_prefix_cons.mp habove
              obtain ⟨other, hother, hrest⟩ := Option.bind_eq_some_iff.mp hq
              rw [hchild] at hother
              cases hother
              have hproper : rest ≠ below := fun heq => hne (by rw [heq])
              have hbelow : below ≠ [] := by
                rintro rfl
                exact hproper (List.prefix_nil.mp hunder)
              obtain ⟨n', hn', hkept⟩ := ih hold hrest hunder hproper
              exact ⟨n', Option.bind_eq_some_iff.mpr ⟨graft new below child,
                slot?_modify_self hchild (hdeep hbelow), hn'⟩, hkept⟩
      | _ => simp [nodeAt?, fields] at hp

/-- No node outside the place of a graft loses the last item of a list. -/
theorem nodeAt?_graft_of_outside {new old t n : Tree} {p q : Position}
    (hp : nodeAt? p t = some old) (hq : nodeAt? q t = some n) (houtside : ¬ p <+: q)
    (hnew : asItems new ≠ []) :
    ∃ n', nodeAt? (Position.moved (asItems new).length p q) (graft new p t) = some n' ∧
      n'.kind? = n.kind? ∧ ∀ place, (n.field place).items ≠ [] → (n'.field place).items ≠ [] := by
  by_cases habove : q <+: p
  · rw [moved_of_above habove]
    refine nodeAt?_graft_of_above hp hq habove ?_ hnew
    rintro rfl
    exact houtside (List.prefix_refl q)
  · exact ⟨n, nodeAt?_graft_of_apart hp hq houtside habove, rfl, fun _ => id⟩

/-- Whether every block of a tree is one of another tree, in a node of the same kind. -/
def HasBlocksOf (t old : Tree) : Prop :=
  ∀ q n kind place, nodeAt? q t = some n → n.kind? = some kind → kind.isBlock place = true →
    ∃ q' n', nodeAt? q' old = some n' ∧ n'.kind? = some kind ∧ n'.field place = n.field place

/-- Expressions have no blocks. -/
theorem hasBlocksOf_of_isBlockFree {sort : NodeSort} {t : Tree} (ht : IsWellFormed sort t)
    (hfree : sort.isBlockFree = true) (old : Tree) : HasBlocksOf t old := by
  intro q n kind place hq hkind hblock
  induction q generalizing sort t with
  | nil =>
      obtain ⟨kind', line, fields, rfl, rfl⟩ := ht.exists_node
      cases hq
      cases hkind
      obtain ⟨content, hcontent, hitem⟩ := (Option.any_eq_true _ _).mp hblock
      have hstatement := Kind.isBlockFree_of_mem_contents hfree content
        (List.mem_of_getElem? hcontent) .statement (by rw [of_decide_eq_true hitem]; rfl)
      cases hstatement
  | cons step rest ih =>
      obtain ⟨kind', line, fields, rfl, rfl⟩ := ht.exists_node
      obtain ⟨child, hchild, hrest⟩ := Option.bind_eq_some_iff.mp hq
      obtain ⟨content, hcontent, sort, hitem, hsort⟩ := ht.exists_child hchild
      exact ih hsort (Kind.isBlockFree_of_mem_contents hfree content hcontent sort hitem) hrest

theorem hasBlocksOf_slot {kind : Kind} {line : Nat} (place item : Nat) {fields : List Tree}
    {content t : Tree} (hfield : fields[place]? = some content)
    (hslot : slot? item content = some t) : HasBlocksOf t (.node kind line fields) := by
  intro q n kind' place' hq hkind _
  refine ⟨⟨place, item⟩ :: q, n, Option.bind_eq_some_iff.mpr ⟨t, ?_, hq⟩, hkind, rfl⟩
  exact Option.bind_eq_some_iff.mpr ⟨content, hfield, hslot⟩

/-- A node has the blocks of another one if all nodes right below have, and its own blocks are taken
from there. -/
theorem hasBlocksOf_node {kind : Kind} {line : Nat} {fields : List Tree} {old : Tree}
    (hown : ∀ place, kind.isBlock place = true →
      old.kind? = some kind ∧ old.field place = fields.getD place .absent)
    (hbelow : ∀ content ∈ fields, ∀ item t, slot? item content = some t → HasBlocksOf t old) :
    HasBlocksOf (.node kind line fields) old := by
  intro q n kind' place hq hkind hblock
  cases q with
  | nil =>
      cases hq
      cases hkind
      obtain ⟨hkind, hfield⟩ := hown place hblock
      refine ⟨[], old, ?_, hkind, hfield⟩
      cases old with
      | node _ _ _ => rfl
      | _ => cases hkind
  | cons step rest =>
      obtain ⟨child, hchild, hrest⟩ := Option.bind_eq_some_iff.mp hq
      obtain ⟨content, hfield, hslot⟩ := Option.bind_eq_some_iff.mp hchild
      exact hbelow content (List.mem_of_getElem? hfield) step.item child hslot rest n kind' place
        hrest hkind hblock

end Tree

end MutationTesting
