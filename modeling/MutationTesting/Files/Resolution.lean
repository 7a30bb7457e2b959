import MutationTesting.Files.Store

/-!
# From paths to addresses

A path leads to an address by following its names one by one, and symbolic links on the way.  At most
forty links are followed.
-/

namespace MutationTesting.Files

namespace Store

/-- Where following names leads. -/
inductive Arrival where
  /-- All names are followed.  Without an entry, only the last name is missing. -/
  | at (address : Address) (entry : Option Entry)
  /-- A link in a directory, with the names still to follow. -/
  | detour (directory : Address) (target : Path) (rest : List String)
  | failed (error : FileError)
deriving DecidableEq, Repr

/-- Follows names from a directory up to the first link.  With `followsLast` a link at the end is
followed as well. -/
def walk (s : Store) (followsLast : Bool) (directory : Address) : List String → Arrival
  | [] => .at directory (some .directory)
  | name :: rest =>
    if name = "" ∨ name = "." then s.walk followsLast directory rest
    else if name = ".." then s.walk followsLast directory.dropLast rest
    else
      let next := directory ++ [name]
      match s.get? next with
      | some .directory => s.walk followsLast next rest
      | some (.file content) =>
        if rest.isEmpty then .at next (some (.file content)) else .failed .notDirectory
      | some (.link target) =>
        if rest.isEmpty && !followsLast then .at next (some (.link target))
        else .detour directory target rest
      | none => if rest.isEmpty then .at next none else .failed .notFound

/-- The directory that the target of a link is seen from. -/
def targetBase (directory : Address) (target : Path) : Address :=
  if Path.isAbsolute target then [] else directory

/-- Follows names and at most `links - 1` links. -/
def follow (s : Store) (followsLast : Bool) :
    Nat → Address → List String → Except FileError (Address × Option Entry)
  | 0, _, _ => .error .tooManyLinks
  | links + 1, directory, names =>
    match s.walk followsLast directory names with
    | .at address entry => .ok (address, entry)
    | .failed error => .error error
    | .detour base target rest =>
      s.follow followsLast links (targetBase base target) (Path.segments target ++ rest)

/-- How many links are followed on one path. -/
def maxLinks : Nat := 40

/-- The address and the entry that a path leads to, seen from a directory. -/
def locate (s : Store) (followsLast : Bool) (directory path : Path) :
    Except FileError (Address × Option Entry) :=
  if path = "" then .error .notFound
  else s.follow followsLast (maxLinks + 1) [] (Path.segments (Path.join directory path))

/-- Follows names as far as they lead and keeps the others.  The flag is false if a link leads back
to itself; then the rest of the path is kept as it is. -/
def realWalk (s : Store) (ofLink : Address → Address → Path → Address × Bool) (busy : List Address)
    (here : Address) : List String → Address × Bool
  | [] => (here, true)
  | name :: rest =>
    if name = "" ∨ name = "." then s.realWalk ofLink busy here rest
    else if name = ".." then s.realWalk ofLink busy here.dropLast rest
    else
      let next := here ++ [name]
      match s.get? next with
      | some (.link target) =>
        if busy.contains next then (Path.collapse true next.reverse rest, false)
        else
          (match ofLink next here target with
            | (place, true) => s.realWalk ofLink busy place rest
            | (place, false) => (Path.collapse true place.reverse rest, false))
      | _ => s.realWalk ofLink busy next rest

/-- The same, where links may be nested `depth` deep. -/
def realFollow (s : Store) : Nat → List Address → Address → List String → Address × Bool
  | 0, _, here, _ => (here, false)
  | depth + 1, busy, here, names =>
    s.realWalk
      (fun link base target =>
        s.realFollow depth (link :: busy) (targetBase base target) (Path.segments target))
      busy here names

/-- The address that a path leads to when all its links are resolved.  Names that do not exist are
kept.  No link is resolved inside itself, so their number bounds the depth. -/
def realAddress (s : Store) (directory path : Path) : Address :=
  (s.realFollow (s.entries.length + 1) [] [] (Path.segments (Path.join directory path))).1

end Store

end MutationTesting.Files
