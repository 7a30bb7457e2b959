import MutationTesting.Settings.Toml.Number

/-!
# TOML documents

`document` reads a TOML document as one table.  The grammar alone does not decide what a document
may say: a table is declared once, what stands between brackets or braces is complete, and a name
is given one value.  These rules are kept by two lists of keys beside the table: the `sealed` keys,
to which nothing may be added, and the `declared` ones, which no header may declare again.
-/

namespace MutationTesting.Settings.Toml

/-- Changes the table that a key leads to, starting from a table.  Tables that are missing on the way
are added; in a list of tables the way leads through the last one, if it may enter lists. -/
def within (entersLists : Bool) (change : Entries → Option Entries) : Key → Entries → Option Entries
  | [], entries => change entries
  | name :: names, entries =>
    match entries.get? name with
    | none => (within entersLists change names []).map fun inner => entries.set name (.table inner)
    | some (.table inner) =>
      (within entersLists change names inner).map fun inner => entries.set name (.table inner)
    | some (.list items) =>
      match entersLists, items.getLast? with
      | true, some (.table inner) =>
        (within entersLists change names inner).map fun inner =>
          entries.set name (.list (items.dropLast ++ [.table inner]))
      | _, _ => none
    | some _ => none

/-- Adds a value to the table that a key leads to, unless there is one of its name. -/
def insertAt (entersLists : Bool) (path : Key) (name : String) (value : Value)
    (entries : Entries) : Option Entries :=
  within entersLists (fun inner =>
    if (inner.get? name).isSome then none else some (inner.set name value)) path entries

/-- Adds an empty table to a list of tables. -/
def appendTable (path : Key) (name : String) (entries : Entries) : Option Entries :=
  within true (fun inner =>
    match inner.get? name with
    | none => some (inner.set name (.list [.table []]))
    | some (.list items) => some (inner.set name (.list (items ++ [.table []])))
    | some _ => none) path entries

/-- Whether a key leads to a sealed one or below it. -/
def isSealed (sealedKeys : List Key) (path : Key) : Bool :=
  sealedKeys.any fun k => k.isPrefixOf path

/-- A value that nothing may be added to once it is complete. -/
def isCollection : Value → Bool
  | .list _ => true
  | .table _ => true
  | _ => false

def ofOption {α : Type} : Option α → Except ReadError α
  | some x => .ok x
  | none => .error .malformed

/-- What follows an expected character. -/
def expect (c : Char) : List Char → Except ReadError (List Char)
  | d :: rest => if d = c then .ok rest else .error .malformed
  | [] => .error .malformed

/-- A value that holds no other value. -/
def simpleValue (cs : List Char) : Except ReadError (Value × List Char) :=
  match string? cs with
  | some step => step.map fun (text, rest) => (.text (String.ofList text), rest)
  | none =>
    match cs with
    | 't' :: 'r' :: 'u' :: 'e' :: rest => .ok (.flag true, rest)
    | 'f' :: 'a' :: 'l' :: 's' :: 'e' :: rest => .ok (.flag false, rest)
    | _ =>
      match (moment? cs).or (number? cs) with
      | some step => step
      | none => ofOption (special? cs)

mutual

/-- A value.  The bound is above the number of steps that reading takes. -/
def value : Nat → List Char → Except ReadError (Value × List Char)
  | 0, _ => .error .malformed
  | bound + 1, cs =>
    match cs with
    | '[' :: rest => do
      let rest ← skipLines false rest
      let (items, rest) ← listItems bound [] rest
      pure (.list items, rest)
    | '\x7b' :: rest =>
      match skipSpaces rest with
      | '\x7d' :: rest => .ok (.table [], rest)
      | rest => do
        let (entries, rest) ← inlineEntries bound [] [] rest
        pure (.table entries, rest)
    | _ => simpleValue cs

/-- The items of a list that are left, after those found so far. -/
def listItems : Nat → List Value → List Char → Except ReadError (List Value × List Char)
  | 0, _, _ => .error .malformed
  | bound + 1, found, cs =>
    match cs with
    | ']' :: rest => .ok (found, rest)
    | _ => do
      let (item, rest) ← value bound cs
      match ← skipLines false rest with
      | ']' :: rest => pure (found ++ [item], rest)
      | ',' :: rest => listItems bound (found ++ [item]) (← skipLines false rest)
      | _ => throw .malformed

/-- The entries of a table between braces that are left.  Only a comma after a collection seals it,
which is the same as sealing it at once, since nothing else follows the last entry. -/
def inlineEntries : Nat → Entries → List Key → List Char → Except ReadError (Entries × List Char)
  | 0, _, _, _ => .error .malformed
  | bound + 1, entries, sealedKeys, cs => do
    let (path, rest) ← key cs
    let rest ← expect '=' rest
    let (item, rest) ← value bound (skipSpaces rest)
    if isSealed sealedKeys path then throw .malformed
    let entries ← ofOption (insertAt false path.dropLast (path.getLast?.getD "") item entries)
    match skipSpaces rest with
    | '\x7d' :: rest => pure (entries, rest)
    | ',' :: rest =>
      let sealedKeys := if isCollection item then path :: sealedKeys else sealedKeys
      inlineEntries bound entries sealedKeys (skipSpaces rest)
    | _ => throw .malformed

end

/-- A document as far as it is read. -/
structure Draft where
  entries : Entries := []
  /-- The key of the table that entries are added to. -/
  header : Key := []
  sealedKeys : List Key := []
  declared : List Key := []
  /-- Keys that count as declared from the next header on. -/
  pending : List Key := []

namespace Draft

/-- The keys of the tables that a dotted key opens below a header. -/
def openedBy (header path : Key) : List Key :=
  (List.range (path.length - 1)).map fun i => header ++ path.take (i + 1)

/-- Adds an entry to the table of the current header. -/
def addEntry (d : Draft) (path : Key) (item : Value) : Except ReadError Draft := do
  let opened := openedBy d.header path
  if opened.any d.declared.contains then throw .malformed
  let parent := d.header ++ path.dropLast
  if isSealed d.sealedKeys parent then throw .malformed
  let entries ← ofOption (insertAt true parent (path.getLast?.getD "") item d.entries)
  let sealedKeys :=
    if isCollection item then (d.header ++ path) :: d.sealedKeys else d.sealedKeys
  pure { d with entries, sealedKeys, pending := opened ++ d.pending }

/-- The draft at the start of a header. -/
def settled (d : Draft) : Draft := { d with declared := d.pending ++ d.declared, pending := [] }

/-- Goes on with the table of a key. -/
def openTable (d : Draft) (path : Key) : Except ReadError Draft := do
  if d.declared.contains path || isSealed d.sealedKeys path then throw .malformed
  let entries ← ofOption (within true some path d.entries)
  pure { d with entries, header := path, declared := path :: d.declared }

/-- Goes on with a new table in the list of a key.  What was said about the tables of that list does
not hold for the new one. -/
def openListItem (d : Draft) (path : Key) : Except ReadError Draft := do
  if isSealed d.sealedKeys path then throw .malformed
  let entries ← ofOption (appendTable path.dropLast (path.getLast?.getD "") d.entries)
  let outside := d.declared.filter fun k => !path.isPrefixOf k
  let sealedKeys := d.sealedKeys.filter fun k => !path.isPrefixOf k
  pure { d with entries, header := path, sealedKeys, declared := path :: outside }

end Draft

/-- The statement at the start of a line that is not blank: an entry, a header, or only a
comment. -/
def statement (d : Draft) (cs : List Char) : Except ReadError (Draft × List Char) :=
  match cs with
  | '[' :: '[' :: rest => do
    let (path, rest) ← key rest
    let d ← d.settled.openListItem path
    pure (d, ← expect ']' (← expect ']' rest))
  | '[' :: rest => do
    let (path, rest) ← key rest
    let d ← d.settled.openTable path
    pure (d, ← expect ']' rest)
  | '#' :: _ => .ok (d, cs)
  | _ => do
    let (path, rest) ← key cs
    let rest ← expect '=' rest
    let (item, rest) ← value (rest.length + 1) (skipSpaces rest)
    pure (← d.addEntry path item, rest)

/-- The rest of a document, line by line. -/
def lines : Nat → Draft → List Char → Except ReadError Entries
  | 0, d, _ => .ok d.entries
  | bound + 1, d, cs =>
    match skipSpaces cs with
    | [] => .ok d.entries
    | '\n' :: rest => lines bound d rest
    | cs => do
      let (d, rest) ← statement d cs
      match ← skipComment (skipSpaces rest) with
      | [] => pure d.entries
      | '\n' :: rest => lines bound d rest
      | _ => throw .malformed

/-- The table that a document describes. -/
def document (text : List Char) : Except ReadError Entries :=
  let text := withLineFeeds text
  lines (text.length + 1) {} text

end MutationTesting.Settings.Toml
