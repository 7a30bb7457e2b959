import MutationTesting.Mutation.Catalog.Branches
import MutationTesting.Mutation.Catalog.Literals

/-!
# Finding mutations

`walk` goes through a tree in pre-order and asks every strategy at every node.
-/

namespace MutationTesting

/-- The mutations one strategy proposes for a node. -/
def Strategy.mutate (s : Strategy) (c : Context) (t : Tree) : Proposals :=
  match s with
  | .arithmetic => .ok (Catalog.arithmetic c t)
  | .comparison => .ok (Catalog.comparison c t)
  | .boolean => .ok (Catalog.boolean c t)
  | .literal => Catalog.literal c t
  | .functionCall => Catalog.functionCall c t
  | .conditional => .ok (Catalog.conditional c t)

/-- The mutations all strategies propose for a node, strategy by strategy. -/
def proposalsAt (strategies : List Strategy) (c : Context) (t : Tree) : Proposals :=
  match strategies with
  | [] => .ok []
  | s :: rest => do
    let first ← s.mutate c t
    let others ← proposalsAt rest c t
    pure (first ++ others)

/-- What a walk needs to know besides the place it is at. -/
structure Survey where
  strategies : List Strategy
  filePath : String

mutual

/-- The mutations of a node and of all nodes below it. -/
def Survey.walkTree (s : Survey) (ancestors : List Ancestor) : Tree → Proposals
  | .node kind line fields => do
    let own ← proposalsAt s.strategies ⟨s.filePath, ancestors⟩ (.node kind line fields)
    let below ← s.walkFields ancestors (.node kind line fields) 0 fields
    pure (own ++ below)
  | _ => .ok []
termination_by structural t => t

/-- The mutations in the fields of a node from a place on. -/
def Survey.walkFields (s : Survey) (ancestors : List Ancestor) (owner : Tree) (place : Nat) :
    List Tree → Proposals
  | [] => .ok []
  | .list items :: rest => do
    let here ← s.walkItems ancestors owner place 0 items
    let others ← s.walkFields ancestors owner (place + 1) rest
    pure (here ++ others)
  | t :: rest => do
    let here ← s.walkTree (ancestors ++ [⟨owner, place, 0⟩]) t
    let others ← s.walkFields ancestors owner (place + 1) rest
    pure (here ++ others)
termination_by structural ts => ts

/-- The mutations in a list field from an item on. -/
def Survey.walkItems (s : Survey) (ancestors : List Ancestor) (owner : Tree) (place item : Nat) :
    List Tree → Proposals
  | [] => .ok []
  | t :: rest => do
    let here ← s.walkTree (ancestors ++ [⟨owner, place, item⟩]) t
    let others ← s.walkItems ancestors owner place (item + 1) rest
    pure (here ++ others)
termination_by structural ts => ts

end

/-- All mutations that strategies propose in a tree below given ancestors. -/
def walk (strategies : List Strategy) (c : Context) (t : Tree) : Proposals :=
  Survey.walkTree ⟨strategies, c.filePath⟩ c.ancestors t

/-- All mutations of a file's tree. -/
def mutationsOf (strategies : List Strategy) (filePath : String) (t : Tree) : Proposals :=
  walk strategies ⟨filePath, []⟩ t

end MutationTesting
