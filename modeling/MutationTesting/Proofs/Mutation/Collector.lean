import MutationTesting.Proofs.Mutation.ProtectedText

/-!
# A walk that keeps its place

A walk through a tree can keep the chain of the nodes above it: a node is put at its end before the
nodes below are visited, and taken away after them, whatever happened there.  Such a walk finds what
all strategies propose at all visits, one visit after the other, and in the end its chain is the one
it began with.
-/

namespace MutationTesting

open MutationTesting.Tree (nodeAt?)

/-- A walk in progress: the nodes above the current one, and the mutations found so far. -/
structure Collector where
  above : List Ancestor
  found : List Mutation

namespace Collector

/-- Puts a node at the end of the chain. -/
def push (node : Tree) (c : Collector) : Collector := { c with above := c.above ++ [⟨node, 0, 0⟩] }

/-- Turns the last node of the chain to one of the places below it. -/
def turn (place item : Nat) (c : Collector) : Collector :=
  { c with above := c.above.dropLast ++ c.above.getLast?.toList.map fun a => ⟨a.node, place, item⟩ }

/-- Takes the last node off the chain. -/
def pop (c : Collector) : Collector := { c with above := c.above.dropLast }

def add (new : List Mutation) (c : Collector) : Collector := { c with found := c.found ++ new }

end Collector

/-- A part of a walk, which may fail and leaves a walk in progress behind in any case. -/
abbrev Visiting := EStateM DescriptionError Collector Unit

/-- Strategies of any kind, and how they propose mutations of the nodes of a file. -/
structure Search (σ : Type) where
  mutate : σ → Context → Tree → Proposals
  strategies : List σ
  filePath : String

/-- The proposals at several places are those of each place, joined. -/
theorem proposalsOver_eq_mapM {α : Type} (proposals : α → Proposals) (places : List α) :
    proposalsOver proposals places = (do
      let parts ← places.mapM proposals
      pure parts.flatten) := by
  induction places with
  | nil => rfl
  | cons first rest ih =>
      rw [proposalsOver, ih, List.mapM_cons]
      simp

namespace Search

variable {σ : Type} (s : Search σ)

/-- Asks strategies about a node, one after the other. -/
def ask (context : Context) (node : Tree) : List σ → Visiting
  | [] => pure ()
  | first :: rest => do
    match s.mutate first context node with
    | .ok new => modify (Collector.add new)
    | .error e => throw e
    ask context node rest

mutual

/-- Visits a node and all nodes below it. -/
def visit : Tree → Visiting
  | .node kind line fields => do
    let here ← get
    s.ask ⟨s.filePath, here.above⟩ (.node kind line fields) s.strategies
    modify (Collector.push (.node kind line fields))
    try visitFields 0 fields
    finally modify Collector.pop
  | _ => pure ()
termination_by structural t => t

/-- Visits the nodes in the fields of the last node of the chain, from a place on. -/
def visitFields (place : Nat) : List Tree → Visiting
  | [] => pure ()
  | .list items :: rest => do
    visitItems place 0 items
    visitFields (place + 1) rest
  | t :: rest => do
    modify (Collector.turn place 0)
    visit t
    visitFields (place + 1) rest
termination_by structural ts => ts

/-- Visits the nodes in a list field of the last node of the chain, from an item on. -/
def visitItems (place item : Nat) : List Tree → Visiting
  | [] => pure ()
  | t :: rest => do
    modify (Collector.turn place item)
    visit t
    visitItems place (item + 1) rest
termination_by structural ts => ts

end

/-- What the strategies propose at a visit below given ancestors. -/
def proposalsAtVisit (ancestors : List Ancestor) (v : Visit) : Proposals :=
  proposalsOver (fun strategy => s.mutate strategy ⟨s.filePath, ancestors ++ v.above⟩ v.node)
    s.strategies

theorem proposalsOver_under (ancestors : List Ancestor) (a : Ancestor) (visits : List Visit) :
    proposalsOver (s.proposalsAtVisit ancestors) (visits.map (Visit.under a)) =
      proposalsOver (s.proposalsAtVisit (ancestors ++ [a])) visits := by
  have hplace : ∀ v : Visit,
      s.proposalsAtVisit ancestors (v.under a) = s.proposalsAtVisit (ancestors ++ [a]) v := by
    intro v
    rw [proposalsAtVisit, proposalsAtVisit, Visit.above_under, Visit.node_under,
      List.append_assoc, List.singleton_append]
  rw [proposalsOver_map]
  simp only [hplace]

end Search

namespace Visiting

theorem run_seq (first second : Visiting) (c : Collector) :
    (do first; second : Visiting).run c =
      match first.run c with
      | .ok _ c => second.run c
      | .error e c => .error e c := by
  rw [EStateM.run_bind]
  cases first.run c <;> rfl

theorem run_modify_seq (change : Collector → Collector) (part : Visiting) (c : Collector) :
    (do modify change; part : Visiting).run c = part.run (change c) := rfl

theorem run_finally (part : Visiting) (change : Collector → Collector) (c : Collector) :
    (try part finally modify change : Visiting).run c =
      match part.run c with
      | .ok _ c => .ok () (change c)
      | .error e c => .error e (change c) := by
  rw [tryFinally, map_eq_pure_bind, EStateM.run_bind]
  simp only [tryFinally', EStateM.run]
  cases part c <;> rfl

/-- Whether a part of a walk finds what is proposed, or fails if that cannot be told.  It keeps what
holds of the chain, also if it fails. -/
def Finds (part : Visiting) (Holds : List Ancestor → Prop) (proposals : Proposals) : Prop :=
  ∀ c : Collector, Holds c.above →
    match proposals with
    | .ok new => ∃ above, Holds above ∧ part.run c = .ok () ⟨above, c.found ++ new⟩
    | .error e => ∃ above found, Holds above ∧ part.run c = .error e ⟨above, found⟩

variable {part first second : Visiting} {Holds : List Ancestor → Prop} {left right : Proposals}

theorem finds_pure : Finds (pure ()) Holds (.ok []) := fun c hc =>
  ⟨c.above, hc, by rw [List.append_nil]; rfl⟩

theorem Finds.seq (hfirst : first.Finds Holds left) (hsecond : second.Finds Holds right) :
    Finds (do first; second) Holds (do
      let here ← left
      let others ← right
      pure (here ++ others)) := by
  intro c hc
  have hfirst := hfirst c hc
  rw [run_seq]
  cases left with
  | error e =>
      obtain ⟨above, found, habove, hfirst⟩ := hfirst
      exact ⟨above, found, habove, by rw [hfirst]⟩
  | ok here =>
      obtain ⟨middle, hmiddle, hfirst⟩ := hfirst
      have hsecond := hsecond ⟨middle, c.found ++ here⟩ hmiddle
      rw [hfirst]
      cases right with
      | error e => exact hsecond
      | ok others =>
          obtain ⟨above, habove, hsecond⟩ := hsecond
          exact ⟨above, habove, hsecond.trans (by rw [List.append_assoc])⟩

/-- Whether a chain ends in a node, turned to any of the places below it. -/
def EndsIn (outer : List Ancestor) (owner : Tree) (above : List Ancestor) : Prop :=
  ∃ place item, above = outer ++ [⟨owner, place, item⟩]

variable {outer : List Ancestor} {owner : Tree}

/-- What is found at a place below a node is found after turning to that place. -/
theorem Finds.below {place item : Nat}
    (hpart : part.Finds (· = outer ++ [⟨owner, place, item⟩]) left) :
    Finds (do modify (Collector.turn place item); part) (EndsIn outer owner) left := by
  rintro ⟨above, found⟩ ⟨place', item', rfl⟩
  have hturned : Collector.turn place item ⟨outer ++ [⟨owner, place', item'⟩], found⟩ =
      ⟨outer ++ [⟨owner, place, item⟩], found⟩ := by simp [Collector.turn]
  have hfinds := hpart ⟨outer ++ [⟨owner, place, item⟩], found⟩ rfl
  rw [run_modify_seq, hturned]
  cases left with
  | error e =>
      obtain ⟨above, found, rfl, hpart⟩ := hfinds
      exact ⟨_, found, ⟨place, item, rfl⟩, hpart⟩
  | ok new =>
      obtain ⟨above, rfl, hpart⟩ := hfinds
      exact ⟨_, ⟨place, item, rfl⟩, hpart⟩

theorem Finds.below_seq {place item : Nat}
    (hfirst : first.Finds (· = outer ++ [⟨owner, place, item⟩]) left)
    (hsecond : second.Finds (EndsIn outer owner) right) :
    Finds (do modify (Collector.turn place item); first; second) (EndsIn outer owner) (do
      let here ← left
      let others ← right
      pure (here ++ others)) := by
  have hfinds := hfirst.below.seq hsecond
  rwa [bind_assoc] at hfinds

/-- A node that is put on the chain is taken off it, also if what is done in between fails. -/
theorem Finds.within (hpart : part.Finds (EndsIn outer owner) left) :
    Finds (do modify (Collector.push owner); try part finally modify Collector.pop)
      (· = outer) left := by
  rintro ⟨above, found⟩ rfl
  have hfinds := hpart (Collector.push owner ⟨above, found⟩) ⟨0, 0, rfl⟩
  rw [run_modify_seq, run_finally]
  cases left with
  | error e =>
      obtain ⟨_, found', ⟨place, item, rfl⟩, hpart⟩ := hfinds
      exact ⟨above, found', rfl, by rw [hpart]; simp [Collector.pop]⟩
  | ok new =>
      obtain ⟨_, ⟨place, item, rfl⟩, hpart⟩ := hfinds
      exact ⟨above, rfl, by rw [hpart]; simp [Collector.pop, Collector.push]⟩

end Visiting

namespace Search

variable {σ : Type} (s : Search σ)

open Visiting (EndsIn)

theorem finds_ask (Holds : List Ancestor → Prop) (context : Context) (node : Tree)
    (strategies : List σ) :
    (s.ask context node strategies).Finds Holds
      (proposalsOver (fun strategy => s.mutate strategy context node) strategies) := by
  induction strategies with
  | nil => exact Visiting.finds_pure
  | cons first rest ih =>
      rw [ask, proposalsOver]
      cases s.mutate first context node with
      | error e => exact fun c hc => ⟨c.above, c.found, hc, rfl⟩
      | ok new =>
          have hadds : Visiting.Finds (modify (Collector.add new)) Holds (.ok new) :=
            fun c hc => ⟨c.above, hc, rfl⟩
          exact hadds.seq ih

/-- A visit asks with the chain as it is when the node is reached. -/
theorem finds_ask_get (above : List Ancestor) (node : Tree) :
    Visiting.Finds (do let here ← get; s.ask ⟨s.filePath, here.above⟩ node s.strategies) (· = above)
      (s.proposalsAtVisit above ⟨[], node⟩) := by
  rintro c rfl
  rw [proposalsAtVisit, List.append_nil]
  exact s.finds_ask (· = c.above) ⟨s.filePath, c.above⟩ node s.strategies c rfl

mutual

theorem finds_visit (above : List Ancestor) : ∀ t : Tree,
    (s.visit t).Finds (· = above) (proposalsOver (s.proposalsAtVisit above) t.visits)
  | .node kind line fields => by
    have hbelow := finds_visitFields above (.node kind line fields) 0 fields
    rw [visit, Tree.visits, proposalsOver]
    exact (s.finds_ask_get above (.node kind line fields)).seq hbelow.within
  | .absent | .text _ | .number _ | .literal _ | .list _ => by
    rw [visit, Tree.visits]
    · exact Visiting.finds_pure
    all_goals simp

theorem finds_visitFields (outer : List Ancestor) (owner : Tree) (place : Nat) :
    ∀ fields : List Tree, (s.visitFields place fields).Finds (EndsIn outer owner)
      (proposalsOver (s.proposalsAtVisit outer) (Tree.visitsInFields owner place fields))
  | [] => by
    rw [visitFields, Tree.visitsInFields]
    exact Visiting.finds_pure
  | .list items :: rest => by
    rw [visitFields, Tree.visitsInFields, proposalsOver_append]
    exact (finds_visitItems outer owner place 0 items).seq
      (finds_visitFields outer owner (place + 1) rest)
  | .node kind line fields :: rest => by
    rw [visitFields, Tree.visitsInFields, proposalsOver_append, proposalsOver_under]
    · exact (finds_visit (outer ++ [⟨owner, place, 0⟩]) (.node kind line fields)).below_seq
        (finds_visitFields outer owner (place + 1) rest)
    all_goals simp
  | .absent :: rest | .text _ :: rest | .number _ :: rest | .literal _ :: rest => by
    rw [visitFields, Tree.visitsInFields, proposalsOver_append, proposalsOver_under]
    · exact (finds_visit (outer ++ [⟨owner, place, 0⟩]) _).below_seq
        (finds_visitFields outer owner (place + 1) rest)
    all_goals simp

theorem finds_visitItems (outer : List Ancestor) (owner : Tree) (place item : Nat) :
    ∀ items : List Tree, (s.visitItems place item items).Finds (EndsIn outer owner)
      (proposalsOver (s.proposalsAtVisit outer) (Tree.visitsInItems owner place item items))
  | [] => by
    rw [visitItems, Tree.visitsInItems]
    exact Visiting.finds_pure
  | t :: rest => by
    rw [visitItems, Tree.visitsInItems, proposalsOver_append, proposalsOver_under]
    exact (finds_visit (outer ++ [⟨owner, place, item⟩]) t).below_seq
      (finds_visitItems outer owner place (item + 1) rest)

end

/-- What the strategies propose at all nodes of a tree below given ancestors, node by node in the order
of the visits, and at each node strategy by strategy. -/
def concatenated (above : List Ancestor) (t : Tree) : Proposals := do
  let parts ← t.visits.mapM fun v =>
    s.strategies.mapM fun strategy => s.mutate strategy ⟨s.filePath, above ++ v.above⟩ v.node
  pure parts.flatten.flatten

theorem concatenated_eq_proposalsOver (above : List Ancestor) (t : Tree) :
    s.concatenated above t = proposalsOver (s.proposalsAtVisit above) t.visits := by
  rw [concatenated]
  induction t.visits with
  | nil => rfl
  | cons v rest ih =>
      rw [proposalsOver, ← ih, proposalsAtVisit, proposalsOver_eq_mapM, List.mapM_cons]
      simp

end Search

/-- Only what is found is kept if a part of it is kept at every place. -/
theorem proposalsOver_filter {α : Type} {all kept : α → Proposals} {keep : Mutation → Bool}
    {places : List α} {found : List Mutation} (hfound : proposalsOver all places = .ok found)
    (hkept : ∀ place ∈ places, ∀ here, all place = .ok here → kept place = .ok (here.filter keep)) :
    proposalsOver kept places = .ok (found.filter keep) := by
  induction places generalizing found with
  | nil =>
      cases hfound
      rfl
  | cons first rest ih =>
      obtain ⟨here, hfirst, hfound⟩ := bind_eq_ok_iff.mp hfound
      obtain ⟨others, hrest, hfound⟩ := bind_eq_ok_iff.mp hfound
      cases hfound
      obtain ⟨hkeptFirst, hkeptRest⟩ := List.forall_mem_cons.mp hkept
      rw [proposalsOver, hkeptFirst here hfirst, ih hrest hkeptRest, List.filter_append]
      rfl

/-- Whether a mutation carries the name of a strategy. -/
def Mutation.isOf (s : Strategy) (m : Mutation) : Bool := decide (m.strategy = s.name)

section Alone

variable {s : Strategy} {c : Context} {t : Tree} {found : List Mutation}

theorem isOf_of_mem_mutate {s' : Strategy} (hfound : s'.mutate c t = .ok found) {m : Mutation}
    (hm : m ∈ found) : m.isOf s = decide (s'.name = s.name) := by
  rw [Mutation.isOf, (Strategy.mutate_proposes hfound m hm).strategy_eq]

theorem filter_isOf_of_mutate (hfound : s.mutate c t = .ok found) :
    found.filter (Mutation.isOf s) = found :=
  List.filter_eq_self.mpr fun m hm => by simp [isOf_of_mem_mutate hfound hm]

theorem filter_isOf_of_mutate_of_ne {s' : Strategy} (hfound : s'.mutate c t = .ok found)
    (hother : s'.name ≠ s.name) : found.filter (Mutation.isOf s) = [] :=
  List.filter_eq_nil_iff.mpr fun m hm => by simp [isOf_of_mem_mutate hfound hm, hother]

theorem filter_isOf_of_forall_ne {strategies : List Strategy}
    (hfound : proposalsAt strategies c t = .ok found) (hother : ∀ s' ∈ strategies, s'.name ≠ s.name) :
    found.filter (Mutation.isOf s) = [] := by
  rw [proposalsAt_eq_proposalsOver] at hfound
  refine List.filter_eq_nil_iff.mpr fun m hm => ?_
  obtain ⟨s', hs', here, hhere, hm⟩ := exists_of_mem_proposalsOver hfound hm
  simp [isOf_of_mem_mutate hhere hm, hother s' hs']

/-- Among strategies of different names, one proposes just the mutations of its name. -/
theorem proposalsAt_single {strategies : List Strategy}
    (hnames : (strategies.map Strategy.name).Nodup) (hs : s ∈ strategies)
    (hfound : proposalsAt strategies c t = .ok found) :
    proposalsAt [s] c t = .ok (found.filter (Mutation.isOf s)) := by
  have halone : ∀ {here}, s.mutate c t = .ok here → proposalsAt [s] c t = .ok here := by
    intro here hhere
    rw [proposalsAt, hhere, proposalsAt]
    exact congrArg Except.ok (List.append_nil here)
  induction strategies generalizing found with
  | nil => cases hs
  | cons first rest ih =>
      obtain ⟨hfirst, hrest⟩ := List.nodup_cons.mp hnames
      obtain ⟨here, hhere, hfound⟩ := bind_eq_ok_iff.mp hfound
      obtain ⟨others, hothers, hfound⟩ := bind_eq_ok_iff.mp hfound
      cases hfound
      rw [List.filter_append]
      rcases List.mem_cons.mp hs with rfl | hlater
      · have hnone : others.filter (Mutation.isOf s) = [] :=
          filter_isOf_of_forall_ne hothers fun s' hs' hsame =>
            hfirst (hsame ▸ List.mem_map_of_mem hs')
        rw [hnone, List.append_nil, filter_isOf_of_mutate hhere]
        exact halone hhere
      · have hnone : here.filter (Mutation.isOf s) = [] :=
          filter_isOf_of_mutate_of_ne hhere fun hsame => hfirst (hsame ▸ List.mem_map_of_mem hlater)
        rw [hnone, List.nil_append]
        exact ih hrest hlater hothers

end Alone

/-- A walk joins what all strategies propose at all nodes, in pre-order.  Each is asked with the
ancestors given at the start and then those on the way from the root.  A walk that keeps its place
finds the same, whatever its strategies are, and its chain is at the end the one from the start, even
if a strategy fails.  One of several strategies with different names finds alone just what the walk with
all of them finds under its name. -/
theorem walk_joins_proposals_in_preorder :
    (∀ (strategies : List Strategy) (c : Context) (t : Tree), walk strategies c t =
      Search.concatenated ⟨Strategy.mutate, strategies, c.filePath⟩ c.ancestors t) ∧
      (∀ (σ : Type) (s : Search σ) (above : List Ancestor) (t : Tree),
        (s.visit t).Finds (· = above) (s.concatenated above t)) ∧
      (∀ t : Tree, t.visits.Pairwise Visit.Earlier ∧
        (∀ p n, nodeAt? p t = some n ↔ ∃ v ∈ t.visits, v.position = p ∧ v.node = n) ∧
        ∀ v ∈ t.visits, ∀ depth a, v.above[depth]? = some a →
          nodeAt? (v.position.take depth) t = some a.node) ∧
      ∀ (strategies : List Strategy) (c : Context) (t : Tree) (found : List Mutation),
        walk strategies c t = .ok found → (strategies.map Strategy.name).Nodup →
          ∀ s ∈ strategies, walk [s] c t = .ok (found.filter (Mutation.isOf s)) := by
  refine ⟨fun strategies c t => ?_, fun σ s above t => ?_, fun t => ?_, ?_⟩
  · rw [Search.concatenated_eq_proposalsOver, walk_eq_proposalsOver]
    simp only [proposalsAt_eq_proposalsOver]
    rfl
  · rw [Search.concatenated_eq_proposalsOver]
    exact s.finds_visit above t
  · refine ⟨Tree.pairwise_earlier_visits t, fun p n => ⟨Tree.exists_visit_of_nodeAt?, ?_⟩,
      fun v hv depth a ha => Tree.nodeAt?_take_of_mem_visits hv ha⟩
    rintro ⟨v, hv, rfl, rfl⟩
    exact Tree.nodeAt?_of_mem_visits hv
  · intro strategies c t found hfound hnames s hs
    rw [walk_eq_proposalsOver] at hfound ⊢
    exact proposalsOver_filter hfound fun v _ here hhere => proposalsAt_single hnames hs hhere

/-- The program `not (a + b)`. -/
def negatedSum : Tree :=
  .node .module 0 [.list [.node .expressionStatement 1
    [.node .unaryOp 1 [.node (.unary .not) 0 [], Mutation.plainSum]]]]

/-- The negation is visited before the sum, so the walk with both strategies does not find the
mutations in the order of the strategies. -/
theorem arithmetic_alone_in_negated_sum :
    ∃ found, walk [.arithmetic, .boolean] ⟨"m.py", []⟩ negatedSum = .ok found ∧
      found.map Mutation.strategy = ["Boolean", "Arithmetic", "Arithmetic"] ∧
      walk [.arithmetic] ⟨"m.py", []⟩ negatedSum =
        .ok (found.filter (Mutation.isOf .arithmetic)) := by
  have hfound : ∃ found, walk [.arithmetic, .boolean] ⟨"m.py", []⟩ negatedSum = .ok found ∧
      found.map Mutation.strategy = ["Boolean", "Arithmetic", "Arithmetic"] := ⟨_, rfl, rfl⟩
  obtain ⟨found, hwalk, hstrategies⟩ := hfound
  obtain ⟨-, -, -, halone⟩ := walk_joins_proposals_in_preorder
  exact ⟨found, hwalk, hstrategies,
    halone _ _ _ _ hwalk (by decide) .arithmetic List.mem_cons_self⟩

end MutationTesting
