import MutationTesting.Text.Order
import MutationTesting.Text.Split

/-!
# Paths

A path is a text in which slashes separate names.  The functions here look at the text alone, never
at the files.
-/

namespace MutationTesting.Files

open MutationTesting.Text

abbrev Path := String

namespace Path

def separator : Char := '/'

/-- The texts between the slashes. -/
def segments (path : Path) : List String := pieces separator path

def isAbsolute (path : Path) : Bool := startsWith "/" path

/-- The path of a second path seen from a first one. -/
def join (base path : Path) : Path :=
  if isAbsolute path || base = "" then path
  else if endsWith "/" base then base ++ path
  else base ++ "/" ++ path

/-- The names that remain when `.` and `..` are carried out.  Above the root there is only the
root. -/
def collapse (absolute : Bool) : List String → List String → List String
  | done, [] => done.reverse
  | done, name :: rest =>
    if name = "" ∨ name = "." then collapse absolute done rest
    else if name = ".." then
      match done with
      | [] => collapse absolute (if absolute then [] else [".."]) rest
      | last :: before =>
        if last = ".." then collapse absolute (".." :: done) rest else collapse absolute before rest
    else collapse absolute (name :: done) rest

/-- The slashes that a normal path begins with: two exactly stay two, more become one. -/
def leadingSlashes (path : Path) : String :=
  if startsWith "//" path && !startsWith "///" path then "//"
  else if startsWith "/" path then "/"
  else ""

/-- The shortest path with the same meaning, as far as the text tells. -/
def normalize (path : Path) : Path :=
  let names := collapse (isAbsolute path) [] (segments path)
  let text := leadingSlashes path ++ String.intercalate "/" names
  if text = "" then "." else text

/-- The normal path from the root on, seen from a directory. -/
def absolute (directory path : Path) : Path := normalize (join directory path)

/-- The names from the root down to an absolute path. -/
def names (path : Path) : List String := (segments path).filter (· ≠ "")

def dropCommon : List String → List String → List String × List String
  | a :: as, b :: bs => if a = b then dropCommon as bs else (a :: as, b :: bs)
  | as, bs => (as, bs)

/-- The path that leads from one absolute path to another. -/
def relative (target start : Path) : Path :=
  let (up, down) := dropCommon (names start) (names target)
  let steps := up.map (fun _ => "..") ++ down
  if steps.isEmpty then "." else String.intercalate "/" steps

/-- The text after the last slash. -/
def baseName (path : Path) : String := (segments path).getLastD ""

/-- The text up to the last slash, without slashes at its end unless it has nothing else. -/
def parent (path : Path) : Path :=
  let head := path.toList.take (path.length - (baseName path).length)
  let trimmed := (head.reverse.dropWhile (· == separator)).reverse
  String.ofList (if trimmed.isEmpty then head else trimmed)

/-- A file name without its extension, and the extension with its dot.  Dots at the beginning of
the name belong to the name. -/
def splitName (name : List Char) : List Char × List Char :=
  let dots := name.takeWhile (· == '.')
  let rest := name.dropWhile (· == '.')
  let reversed := rest.reverse
  match reversed.dropWhile (· != '.') with
  | [] => (name, [])
  | _ :: stem => (dots ++ stem.reverse, '.' :: (reversed.takeWhile (· != '.')).reverse)

/-- A path without the extension of its last name. -/
def withoutExtension (path : Path) : Path :=
  let name := (baseName path).toList
  String.ofList (path.toList.take (path.length - name.length) ++ (splitName name).1)

def extension (path : Path) : String := String.ofList (splitName (baseName path).toList).2

/-- Whether an absolute path lies below a directory. -/
def isBelow (directory path : Path) : Bool := startsWith (directory ++ "/") path

end Path

end MutationTesting.Files
