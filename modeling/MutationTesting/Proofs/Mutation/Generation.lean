import MutationTesting.Proofs.Mutation.Proposal
import MutationTesting.Proofs.Mutation.Rendering

/-!
# Generated mutations apply

A walk asks for proposals at one visit after the other.  Every mutation it finds names the node it
was proposed for, with its line, so the search for that node has something to find.  The node
that is replaced is the first visited one with that line and shape.
-/

namespace MutationTesting

/-- The proposals at several places, one place after the other. -/
def proposalsOver {α : Type} (proposals : α → Proposals) : List α → Proposals
  | [] => .ok []
  | first :: rest => do
    let here ← proposals first
    let others ← proposalsOver proposals rest
    pure (here ++ others)

section ProposalsOver

variable {α β : Type}

theorem proposalsOver_append (proposals : α → Proposals) (left right : List α) :
    proposalsOver proposals (left ++ right) = (do
      let here ← proposalsOver proposals left
      let others ← proposalsOver proposals right
      pure (here ++ others)) := by
  induction left with
  | nil =>
      rw [List.nil_append, proposalsOver]
      cases proposalsOver proposals right <;> rfl
  | cons first rest ih =>
      rw [List.cons_append, proposalsOver, ih, proposalsOver]
      cases proposals first with
      | error e => rfl
      | ok here =>
          cases proposalsOver proposals rest with
          | error e => rfl
          | ok middle =>
              cases proposalsOver proposals right with
              | error e => rfl
              | ok others => exact congrArg Except.ok (List.append_assoc here middle others).symm

theorem proposalsOver_map (proposals : β → Proposals) (f : α → β) (places : List α) :
    proposalsOver proposals (places.map f) = proposalsOver (fun a => proposals (f a)) places := by
  induction places with
  | nil => rfl
  | cons first rest ih => rw [List.map_cons, proposalsOver, proposalsOver, ih]

/-- Every proposal was made at one of the places. -/
theorem exists_of_mem_proposalsOver {proposals : α → Proposals} {places : List α}
    {found : List Mutation} {m : Mutation} (hfound : proposalsOver proposals places = .ok found)
    (hm : m ∈ found) : ∃ place ∈ places, ∃ here, proposals place = .ok here ∧ m ∈ here := by
  induction places generalizing found with
  | nil =>
      cases hfound
      cases hm
  | cons first rest ih =>
      obtain ⟨here, hfirst, hfound⟩ := bind_eq_ok_iff.mp hfound
      obtain ⟨others, hrest, hfound⟩ := bind_eq_ok_iff.mp hfound
      cases hfound
      rcases List.mem_append.mp hm with hm | hm
      · exact ⟨first, List.mem_cons_self, here, hfirst, hm⟩
      · obtain ⟨place, hplace, hproposed⟩ := ih hrest hm
        exact ⟨place, List.mem_cons_of_mem first hplace, hproposed⟩

end ProposalsOver

theorem proposalsAt_eq_proposalsOver (strategies : List Strategy) (c : Context) (t : Tree) :
    proposalsAt strategies c t = proposalsOver (fun s => s.mutate c t) strategies := by
  induction strategies with
  | nil => rfl
  | cons s rest ih => rw [proposalsAt, proposalsOver, ih]

namespace Survey

variable (s : Survey)

/-- The proposals at a visit, below given ancestors. -/
def proposalsAtVisit (ancestors : List Ancestor) (v : Visit) : Proposals :=
  proposalsAt s.strategies ⟨s.filePath, ancestors ++ v.above⟩ v.node

theorem proposalsAtVisit_under (ancestors : List Ancestor) (a : Ancestor) (v : Visit) :
    s.proposalsAtVisit ancestors (v.under a) = s.proposalsAtVisit (ancestors ++ [a]) v := by
  rw [proposalsAtVisit, proposalsAtVisit, Visit.above_under, Visit.node_under, List.append_assoc,
    List.singleton_append]

/-- What a walk below one more ancestor finds, seen from above it. -/
theorem proposalsOver_under (ancestors : List Ancestor) (a : Ancestor) (visits : List Visit) :
    proposalsOver (s.proposalsAtVisit ancestors) (visits.map (Visit.under a)) =
      proposalsOver (s.proposalsAtVisit (ancestors ++ [a])) visits := by
  rw [proposalsOver_map]
  simp only [proposalsAtVisit_under]

mutual

/-- A walk asks for proposals at every visit, in the order of the visits. -/
theorem walkTree_eq_proposalsOver (ancestors : List Ancestor) : ∀ t : Tree,
    s.walkTree ancestors t = proposalsOver (s.proposalsAtVisit ancestors) t.visits
  | .node kind line fields => by
    rw [walkTree, Tree.visits, proposalsOver, proposalsAtVisit, List.append_nil,
      walkFields_eq_proposalsOver ancestors (.node kind line fields) 0 fields]
  | .absent | .text _ | .number _ | .literal _ | .list _ => by
    rw [walkTree, Tree.visits]
    · rfl
    all_goals simp

theorem walkFields_eq_proposalsOver (ancestors : List Ancestor) (owner : Tree) (place : Nat) :
    ∀ fields : List Tree, s.walkFields ancestors owner place fields =
      proposalsOver (s.proposalsAtVisit ancestors) (Tree.visitsInFields owner place fields)
  | [] => by rw [walkFields, Tree.visitsInFields, proposalsOver]
  | .list items :: rest => by
    rw [walkFields, Tree.visitsInFields, proposalsOver_append,
      walkItems_eq_proposalsOver ancestors owner place 0 items,
      walkFields_eq_proposalsOver ancestors owner (place + 1) rest]
  | .node kind line fields :: rest => by
    rw [walkFields, Tree.visitsInFields, proposalsOver_append, proposalsOver_under,
      walkTree_eq_proposalsOver (ancestors ++ [Ancestor.mk owner place 0]) (.node kind line fields),
      walkFields_eq_proposalsOver ancestors owner (place + 1) rest]
    all_goals simp
  | .absent :: rest | .text _ :: rest | .number _ :: rest | .literal _ :: rest => by
    rw [walkFields, walkTree, Tree.visitsInFields, Tree.visits,
      walkFields_eq_proposalsOver ancestors owner (place + 1) rest]
    · rw [List.map_nil, List.nil_append]
      cases proposalsOver (s.proposalsAtVisit ancestors)
        (Tree.visitsInFields owner (place + 1) rest) <;> rfl
    all_goals simp

theorem walkItems_eq_proposalsOver (ancestors : List Ancestor) (owner : Tree)
    (place item : Nat) : ∀ items : List Tree, s.walkItems ancestors owner place item items =
      proposalsOver (s.proposalsAtVisit ancestors) (Tree.visitsInItems owner place item items)
  | [] => by rw [walkItems, Tree.visitsInItems, proposalsOver]
  | t :: rest => by
    rw [walkItems, Tree.visitsInItems, proposalsOver_append, proposalsOver_under,
      walkTree_eq_proposalsOver (ancestors ++ [Ancestor.mk owner place item]) t,
      walkItems_eq_proposalsOver ancestors owner place (item + 1) rest]

end

end Survey

theorem walk_eq_proposalsOver (strategies : List Strategy) (c : Context) (t : Tree) :
    walk strategies c t =
      proposalsOver (fun v => proposalsAt strategies ⟨c.filePath, c.ancestors ++ v.above⟩ v.node)
        t.visits :=
  Survey.walkTree_eq_proposalsOver ⟨strategies, c.filePath⟩ c.ancestors t

theorem proposalsAt_names {strategies : List Strategy} {c : Context} {t : Tree}
    {found : List Mutation} (hfound : proposalsAt strategies c t = .ok found) :
    ∀ m ∈ found, m.Names t := by
  intro m hm
  rw [proposalsAt_eq_proposalsOver] at hfound
  obtain ⟨s, _, here, hhere, hm⟩ := exists_of_mem_proposalsOver hfound hm
  exact (Strategy.mutate_proposes hhere m hm).names

namespace Mutation

/-- What a walk finds was proposed by a strategy for the original, a node of the tree. -/
theorem exists_strategy_of_mem_walk {strategies : List Strategy} {c : Context} {t : Tree}
    {found : List Mutation} (hwalk : walk strategies c t = .ok found) {m : Mutation}
    (hm : m ∈ found) :
    ∃ origin ∈ t.visits, m.original = origin.node ∧ m.Fits origin.node ∧
      ∃ s ∈ strategies, ∃ here,
        s.mutate ⟨c.filePath, c.ancestors ++ origin.above⟩ origin.node = .ok here ∧ m ∈ here := by
  rw [walk_eq_proposalsOver] at hwalk
  obtain ⟨origin, horigin, there, hthere, hm⟩ := exists_of_mem_proposalsOver hwalk hm
  have hnames := proposalsAt_names hthere m hm
  rw [proposalsAt_eq_proposalsOver] at hthere
  obtain ⟨s, hs, here, hhere, hm⟩ := exists_of_mem_proposalsOver hthere hm
  exact ⟨origin, horigin, hnames.1, hnames.fits, s, hs, here, hhere, hm⟩

theorem filePath_of_mem_walk {strategies : List Strategy} {c : Context} {t : Tree}
    {found : List Mutation} (hwalk : walk strategies c t = .ok found) {m : Mutation}
    (hm : m ∈ found) : m.filePath = c.filePath := by
  obtain ⟨origin, -, -, -, s, -, here, hhere, hm⟩ := exists_strategy_of_mem_walk hwalk hm
  exact (Strategy.mutate_proposes hhere m hm).filePath_eq

/-- Whether a visit is the first one, in the order of a walk, whose node a mutation fits. -/
def FitsFirstVisit (m : Mutation) (t : Tree) (v : Visit) : Prop :=
  ∃ before after, t.visits = before ++ v :: after ∧ m.Fits v.node ∧ ∀ w ∈ before, ¬ m.Fits w.node

theorem fitsFirstVisit_iff {m : Mutation} {t : Tree} {v : Visit} :
    m.FitsFirstVisit t v ↔ (t.visits.find? fun w => m.hits w.node) = some v := by
  rw [List.find?_eq_some_iff_append, hits_iff]
  constructor
  · rintro ⟨before, after, hvisits, hfits, hmissed⟩
    refine ⟨hfits, before, after, hvisits, fun w hw => ?_⟩
    simpa [← hits_iff] using hmissed w hw
  · rintro ⟨hfits, before, after, hvisits, hmissed⟩
    refine ⟨before, after, hvisits, hfits, fun w hw => ?_⟩
    simpa [← hits_iff] using hmissed w hw

theorem FitsFirstVisit.unique {m : Mutation} {t : Tree} {v w : Visit}
    (hv : m.FitsFirstVisit t v) (hw : m.FitsFirstVisit t w) : v = w := by
  rw [fitsFirstVisit_iff] at hv hw
  exact Option.some.inj (hv.symm.trans hw)

theorem exists_fitsFirstVisit {m : Mutation} {t : Tree} {v : Visit} (hv : v ∈ t.visits)
    (hfits : m.Fits v.node) : ∃ first, m.FitsFirstVisit t first := by
  cases hfound : t.visits.find? fun w => m.hits w.node with
  | none => exact absurd (hits_iff.mpr hfits) (List.find?_eq_none.mp hfound v hv)
  | some first => exact ⟨first, fitsFirstVisit_iff.mpr hfound⟩

theorem apply_of_fitsFirstVisit {m : Mutation} {t patched : Tree} {applied : Bool} {v : Visit}
    (hfirst : m.FitsFirstVisit t v) (happly : m.apply t = .ok (patched, applied)) :
    applied = true ∧ patched = Tree.graft m.replacement v.position t := by
  have houtcome := replaceFirst_of_apply_eq_ok happly
  rw [Tree.replaceFirst_eq_graft, fitsFirstVisit_iff.mp hfirst] at houtcome
  cases houtcome
  exact ⟨rfl, rfl⟩

end Mutation

end MutationTesting
