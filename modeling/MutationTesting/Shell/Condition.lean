import MutationTesting.Files.FileSystem
import MutationTesting.Shell.Output

/-!
# Conditions of the small shell

`holds` decides what the command `test` is asked: whether a text is empty, how two texts or numbers
compare, and what is at a path.
-/

namespace MutationTesting.Shell.Condition

open MutationTesting.Files
open MutationTesting.Text

/-- The number that a word of a condition has to be. -/
def number (word : String) : Except String Int :=
  match wholeNumber word.toList with
  | some (n, rest) =>
    if rest.all isBlank then .ok n else .error ("Illegal number: " ++ word)
  | none => .error ("Illegal number: " ++ word)

/-- Whether one word is as an operator says, if there is such an operator. -/
def holdsOfOne? (fs : FileSystem) (operator word : String) : Option Bool :=
  match operator with
  | "-n" => some (word != "")
  | "-z" => some (word == "")
  | "-e" => some (fs.leadsSomewhere word)
  | "-f" => some (fs.isFile word)
  | "-d" => some (fs.isDirectory word)
  | "-r" => some (fs.leadsSomewhere word)
  | "-w" => some (fs.leadsSomewhere word)
  | "-x" => some (fs.isDirectory word)
  | "-s" =>
    some (match fs.read word with
      | .ok content => !content.isEmpty
      | .error _ => fs.isDirectory word)
  | "-L" => some (isLink word)
  | "-h" => some (isLink word)
  | _ => none
where
  isLink (word : String) : Bool :=
    match fs.store.locate false fs.directory word with
    | .ok (_, some (.link _)) => true
    | _ => false

/-- How two numbers compare, if an operator asks for it. -/
def compares? (operator : String) (x y : Int) : Option Bool :=
  match operator with
  | "-eq" => some (x = y)
  | "-ne" => some (x ≠ y)
  | "-lt" => some (x < y)
  | "-le" => some (x ≤ y)
  | "-gt" => some (y < x)
  | "-ge" => some (y ≤ x)
  | _ => none

/-- How two words compare, if an operator asks for it. -/
def holdsOfTwo? (operator left right : String) : Option (Except String Bool) :=
  match operator with
  | "=" => some (.ok (left == right))
  | "!=" => some (.ok (left != right))
  | "<" => some (.ok (decide (left < right)))
  | ">" => some (.ok (decide (right < left)))
  | _ =>
    (compares? operator 0 0).map fun _ => do
      let x ← number left
      let y ← number right
      pure ((compares? operator x y).getD false)

/-- The words in front of an operator and those after it. -/
def splitAtWord? (operator : String) (words : List String) : Option (List String × List String) :=
  match words.dropWhile (· != operator) with
  | _ :: after =>
    if after.isEmpty then none else some (words.takeWhile (· != operator), after)
  | [] => none

/-- Whether a condition holds, or what is wrong with it.  The bound is above the number of words. -/
def holdsWithin (fs : FileSystem) : Nat → List String → Except String Bool
  | 0, _ => .ok false
  | _, [] => .ok false
  | _, [word] => .ok (word != "")
  | bound + 1, [operator, word] =>
    if operator = "!" then (holdsWithin fs bound [word]).map (!·)
    else
      match holdsOfOne? fs operator word with
      | some b => .ok b
      | none => .error (operator ++ ": unexpected operator")
  | bound + 1, left :: operator :: rest =>
    let words := left :: operator :: rest
    match rest, holdsOfTwo? operator left ((rest.head?).getD "") with
    | [_], some answer => answer
    | _, _ =>
      match splitAtWord? "-o" words with
      | some (before, after) => do
        let first ← holdsWithin fs bound before
        let second ← holdsWithin fs bound after
        pure (first || second)
      | none =>
        match splitAtWord? "-a" words with
        | some (before, after) => do
          let first ← holdsWithin fs bound before
          let second ← holdsWithin fs bound after
          pure (first && second)
        | none =>
          if left = "!" then (holdsWithin fs bound (operator :: rest)).map (!·)
          else if left = "(" && words.getLast? = some ")" then
            holdsWithin fs bound (operator :: rest).dropLast
          else .error (operator ++ ": unexpected operator")

/-- Whether the condition that some words ask for holds, or what is wrong with it. -/
def holds (fs : FileSystem) (words : List String) : Except String Bool :=
  holdsWithin fs (words.length + 1) words

end MutationTesting.Shell.Condition
