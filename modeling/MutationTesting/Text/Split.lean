/-!
# Splitting and joining

A text and the list of its pieces between the occurrences of a separator determine each other:
joining undoes splitting.
-/

namespace MutationTesting.Text

/-- The pieces of a text between the occurrences of a separator. -/
def splitAt (separator : Char) : List Char → List (List Char)
  | [] => [[]]
  | c :: rest =>
    if c = separator then [] :: splitAt separator rest
    else
      match splitAt separator rest with
      | [] => [[c]]
      | first :: others => (c :: first) :: others

/-- The pieces of a text with a separator between any two. -/
def joinWith (separator : Char) : List (List Char) → List Char
  | [] => []
  | [piece] => piece
  | piece :: rest => piece ++ separator :: joinWith separator rest

/-- The pieces of a text between the occurrences of a separator. -/
def pieces (separator : Char) (text : String) : List String :=
  (splitAt separator text.toList).map String.ofList

theorem splitAt_ne_nil (separator : Char) (text : List Char) : splitAt separator text ≠ [] := by
  cases text with
  | nil => simp [splitAt]
  | cons c rest =>
    rw [splitAt]
    split
    · simp
    · split <;> simp

theorem joinWith_splitAt (separator : Char) (text : List Char) :
    joinWith separator (splitAt separator text) = text := by
  induction text with
  | nil => rfl
  | cons c rest ih =>
    rw [splitAt]
    split
    · next h =>
      subst h
      cases hs : splitAt c rest with
      | nil => exact absurd hs (splitAt_ne_nil c rest)
      | cons first others => rw [joinWith, ← hs, ih] <;> simp
    · cases hs : splitAt separator rest with
      | nil => exact absurd hs (splitAt_ne_nil separator rest)
      | cons first others =>
        rw [hs] at ih
        cases others with
        | nil => simp_all [joinWith]
        | cons second more => simp_all [joinWith]

end MutationTesting.Text
