/-!
# Wildcards

A pattern of wildcards matches whole texts: `*` any text, `?` any character, and brackets one
character out of a set.
-/

namespace MutationTesting.Files

/-- The characters between two. -/
structure Span where
  first : Char
  last : Char
deriving DecidableEq, Repr

def Span.contains (s : Span) (c : Char) : Bool := decide (s.first ≤ c) && decide (c ≤ s.last)

inductive Wildcard where
  | exactly (c : Char)
  | anyChar
  | anyText
  | oneOf (negated : Bool) (spans : List Span)
deriving DecidableEq, Repr

namespace Wildcard

/-- Splits the inside of brackets at the hyphens that stand between two characters.  A hyphen at
either end, or right after a range, stands for itself. -/
def chunks : Nat → List Char → List (List Char)
  | 0, cs => [cs]
  | bound + 1, cs =>
    match cs with
    | [] => [[]]
    | first :: rest =>
      match rest.dropWhile (· != '-') with
      | [] => [cs]
      | [_] => [cs]
      | _ :: next :: after =>
        let chunk := first :: rest.takeWhile (· != '-')
        chunk :: chunksAfter bound next after
where
  /-- The chunk that begins with the end of a range. -/
  chunksAfter (bound : Nat) (next : Char) (after : List Char) : List (List Char) :=
    match after with
    | [] => [[next]]
    | second :: more =>
      match chunks bound (second :: more) with
      | [] => [[next]]
      | chunk :: others => (next :: chunk) :: others

/-- Takes away the ranges that hold nothing, from the last to the first. -/
def joinEmpty : List (List Char) → List (List Char)
  | [] => []
  | chunk :: rest =>
    match chunk.getLast?, joinEmpty rest with
    | some a, (b :: tail) :: others =>
      if b < a then (chunk.dropLast ++ tail) :: others else chunk :: (b :: tail) :: others
    | _, others => chunk :: others

def single (c : Char) : Span := ⟨c, c⟩

/-- The characters of chunks with a range from the end of each to the beginning of the next. -/
def spansOf : List (List Char) → List Span
  | [] => []
  | [chunk] => chunk.map single
  | chunk :: next :: rest =>
    let range :=
      match chunk.getLast?, next.head? with
      | some a, some b => [⟨a, b⟩]
      | _, _ => []
    chunk.map single ++ range ++ spansOf (next :: rest)

/-- The inside of brackets, from the character after the opening one, with the rest. -/
def bracketBody? (cs : List Char) : Option (List Char × List Char) :=
  let (mark, cs) := match cs with
    | '!' :: rest => (['!'], rest)
    | _ => ([], cs)
  let (first, cs) := match cs with
    | ']' :: rest => ([']'], rest)
    | _ => ([], cs)
  match cs.dropWhile (· != ']') with
  | [] => none
  | _ :: rest => some (mark ++ first ++ cs.takeWhile (· != ']'), rest)

def bracket (body : List Char) : Wildcard :=
  match body with
  | '!' :: inside => .oneOf true (spansOf (joinEmpty (chunks inside.length inside)))
  | inside => .oneOf false (spansOf (joinEmpty (chunks inside.length inside)))

/-- The wildcards of a pattern, whose length bounds their number. -/
def ofPattern : Nat → List Char → List Wildcard
  | 0, _ => []
  | _, [] => []
  | bound + 1, c :: rest =>
    if c = '*' then anyText :: ofPattern bound rest
    else if c = '?' then anyChar :: ofPattern bound rest
    else if c = '[' then
      match bracketBody? rest with
      | some (body, after) => bracket body :: ofPattern bound after
      | none => exactly '[' :: ofPattern bound rest
    else exactly c :: ofPattern bound rest

def fits (c : Char) : Wildcard → Bool
  | exactly d => c = d
  | anyChar => true
  | anyText => false
  | oneOf negated spans => (spans.any (·.contains c)) != negated

/-- Whether wildcards match some ending of a text.  The test is for a pattern that goes on after a
`*`. -/
def matchesEnding (rest : List Char → Bool) : List Char → Bool
  | [] => rest []
  | c :: cs => rest (c :: cs) || matchesEnding rest cs

/-- Whether wildcards match a whole text. -/
def matchesText : List Wildcard → List Char → Bool
  | [], cs => cs.isEmpty
  | anyText :: rest, cs => matchesEnding (matchesText rest) cs
  | w :: rest, c :: cs => fits c w && matchesText rest cs
  | _ :: _, [] => false

end Wildcard

/-- Whether a text matches a pattern. -/
def matchesPattern (pattern text : String) : Bool :=
  Wildcard.matchesText (Wildcard.ofPattern pattern.length pattern.toList) text.toList

end MutationTesting.Files
