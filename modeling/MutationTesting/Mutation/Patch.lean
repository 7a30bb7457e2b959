import MutationTesting.Mutation.Basic
import MutationTesting.Tree.Grammar

/-!
# Applying a mutation

The node to replace is found again by its line and shape.  Two nodes of one shape on one line cannot
be told apart; the first in pre-order is replaced.
-/

namespace MutationTesting

namespace Tree

mutual

/-- The nodes of a tree in pre-order. -/
def nodes : Tree → List Tree
  | .node kind line fields => .node kind line fields :: nodesInFields fields
  | _ => []
termination_by structural t => t

/-- The nodes in the fields of a node. -/
def nodesInFields : List Tree → List Tree
  | [] => []
  | .list items :: rest => nodesInItems items ++ nodesInFields rest
  | t :: rest => nodes t ++ nodesInFields rest
termination_by structural ts => ts

/-- The nodes in the items of a list. -/
def nodesInItems : List Tree → List Tree
  | [] => []
  | t :: rest => nodes t ++ nodesInItems rest
termination_by structural ts => ts

end

mutual

/-- Puts `new` where the first node in pre-order is that `hit` accepts, and says whether there was
one.  Nothing inside the replacement is looked at. -/
def replaceFirst (hit : Tree → Bool) (new : Tree) : Tree → Tree × Bool
  | .node kind line fields =>
    if hit (.node kind line fields) then (new, true)
    else
      let (fields', found) := replaceInFields hit new fields
      (.node kind line fields', found)
  | other => (other, false)
termination_by structural t => t

/-- The same in the fields of a node. -/
def replaceInFields (hit : Tree → Bool) (new : Tree) : List Tree → List Tree × Bool
  | [] => ([], false)
  | .list items :: rest =>
    let (items', found) := replaceInItems hit new items
    if found then (.list items' :: rest, true)
    else
      let (rest', found) := replaceInFields hit new rest
      (.list items' :: rest', found)
  | t :: rest =>
    let (t', found) := replaceFirst hit new t
    if found then (t' :: rest, true)
    else
      let (rest', found) := replaceInFields hit new rest
      (t' :: rest', found)
termination_by structural ts => ts

/-- The same in the items of a list: a list that replaces an item is spliced in. -/
def replaceInItems (hit : Tree → Bool) (new : Tree) : List Tree → List Tree × Bool
  | [] => ([], false)
  | t :: rest =>
    let (t', found) := replaceFirst hit new t
    if found then
      (match t' with
        | .list spliced => (spliced ++ rest, true)
        | single => (single :: rest, true))
    else
      let (rest', found) := replaceInItems hit new rest
      (t' :: rest', found)
termination_by structural ts => ts

end

end Tree

/-- Why a mutation cannot be looked for. -/
inductive SearchError where
  /-- The original is not a single node. -/
  | noSingleNode
  /-- A whole number in the original, or in a node compared with it, is too long to be written. -/
  | longNumeral
deriving DecidableEq, Repr

namespace Mutation

def onLine (m : Mutation) (t : Tree) : Bool :=
  match t.line? with
  | some line => decide ((line : Int) = m.line)
  | none => false

/-- Whether a node has the line and the shape of the mutation's original. -/
def hits (m : Mutation) (t : Tree) : Bool :=
  m.onLine t && decide (t.shape = m.original.shape)

/-- Whether the search meets a node on its line that cannot be written before it finds its node. -/
def meetsUnwritable (m : Mutation) (t : Tree) : Bool :=
  (t.nodes.takeWhile fun n => !m.hits n).any fun n => m.onLine n && !n.isWritable

/-- The tree with the replacement in it, and whether the node was found. -/
def apply (m : Mutation) (t : Tree) : Except SearchError (Tree × Bool) :=
  if !m.original.isNode then .error .noSingleNode
  else if !m.original.isWritable || m.meetsUnwritable t then .error .longNumeral
  else .ok (Tree.replaceFirst m.hits m.replacement t)

end Mutation

end MutationTesting
