import MutationTesting.Number.Amount
import MutationTesting.Settings.Moment
import MutationTesting.Text.Quoted

/-!
# Values of settings

A setting can be given any value that a settings file can hold, or none.  Most settings are not
looked at before a run needs them, so they keep whatever value they have.
-/

namespace MutationTesting.Settings

inductive Value where
  | absent
  | amount (x : Amount)
  | text (s : String)
  | moment (m : Moment)
  | list (items : List Value)
  /-- Names and their values, each name once, in the order they were first given. -/
  | table (entries : List (String × Value))
deriving Repr, Inhabited

/-- Names and their values. -/
abbrev Entries := List (String × Value)

namespace Entries

def get? (entries : Entries) (name : String) : Option Value := entries.lookup name

/-- The entries with a value changed in its place, or added at the end. -/
def set (name : String) (value : Value) : Entries → Entries
  | [] => [(name, value)]
  | (n, v) :: rest => if n = name then (n, value) :: rest else (n, v) :: set name value rest

end Entries

namespace Value

def flag (b : Bool) : Value := .amount (.flag b)

def whole (n : Int) : Value := .amount (.whole n)

def real (x : Binary64) : Value := .amount (.real x)

def texts (items : List String) : Value := .list (items.map .text)

def isAbsent : Value → Bool
  | absent => true
  | _ => false

/-- Whether a value counts as a yes.  Nothing, zero and whatever is empty counts as a no. -/
def isYes : Value → Bool
  | absent => false
  | amount (.flag b) => b
  | amount (.whole n) => n != 0
  | amount (.real x) => !x.same Binary64.zero
  | text s => s != ""
  | moment _ => true
  | list items => !items.isEmpty
  | table entries => !entries.isEmpty

/-- The name of the kind of a value, as error messages have it. -/
def kindName : Value → String
  | absent => "NoneType"
  | amount (.flag _) => "bool"
  | amount (.whole _) => "int"
  | amount (.real _) => "float"
  | text _ => "str"
  | moment m => m.qualifiedKindName
  | list _ => "list"
  | table _ => "dict"

/-- Whether a value can be looked up among keys: all but collections can. -/
def isKey : Value → Bool
  | list _ => false
  | table _ => false
  | _ => true

mutual

/-- The text that shows a value, unless it holds a whole number with too many digits. -/
def shown? : Value → Option String
  | absent => some "None"
  | amount x => x.toText?
  | text s => some (Text.quoted s)
  | moment m => some m.shown
  | list items => (shownItems? items).map fun texts => "[" ++ String.intercalate ", " texts ++ "]"
  | table entries =>
    (shownEntries? entries).map fun texts => "\x7b" ++ String.intercalate ", " texts ++ "\x7d"

def shownItems? : List Value → Option (List String)
  | [] => some []
  | item :: rest => do
    let first ← shown? item
    let others ← shownItems? rest
    pure (first :: others)

def shownEntries? : List (String × Value) → Option (List String)
  | [] => some []
  | (name, value) :: rest => do
    let first ← shown? value
    let others ← shownEntries? rest
    pure ((Text.quoted name ++ ": " ++ first) :: others)

end

end Value

end MutationTesting.Settings
