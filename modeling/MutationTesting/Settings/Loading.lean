import MutationTesting.Settings.RunConfig
import MutationTesting.Settings.Toml.Document
import MutationTesting.Text.Utf8

/-!
# Reading the configuration of a project

A project keeps its settings in a section of its `pyproject.toml`.  Whoever starts a run can
override them.
-/

namespace MutationTesting.Settings

/-- The file that holds the settings of a project. -/
def projectFileName : String := "pyproject.toml"

/-- The names of the tables that lead to the settings. -/
def sectionPath : Toml.Key := ["tool", "mutascope"]

/-- Why no configuration can be loaded. -/
inductive LoadError where
  /-- The file is no text. -/
  | notText
  | malformed
  /-- A whole number in the file has too many digits. -/
  | longNumber
  /-- A table that leads to the settings is something else. -/
  | notTable
  | unknownKey (key : String)
  | unknownOption (name : String)
  | rejected (reason : Rejection)
deriving DecidableEq, Repr

def LoadError.message : LoadError → String
  | notText => projectFileName ++ " is no text"
  | malformed => "cannot read " ++ projectFileName
  | longNumber => "a number has too many digits"
  | notTable => "the section is not a table"
  | unknownKey key =>
    "unknown [" ++ String.intercalate "." sectionPath ++ "] key " ++ Text.quoted key
  | unknownOption name => "unknown configuration option " ++ Text.quoted name
  | rejected reason => reason.message

/-- Whether the error says what is wrong with the configuration.  The others are not foreseen. -/
def LoadError.isConfigurationError : LoadError → Bool
  | malformed => true
  | unknownKey _ => true
  | unknownOption _ => true
  | rejected reason => reason != .longNumber
  | _ => false

/-- The tables that a path leads to; a missing one is empty. -/
def sectionAt : Toml.Key → Entries → Except LoadError Entries
  | [], entries => .ok entries
  | name :: names, entries =>
    match entries.get? name with
    | none => sectionAt names []
    | some (.table inner) => sectionAt names inner
    | some _ => .error .notTable

/-- The settings in a project's file. -/
def readSection (content : List UInt8) : Except LoadError Entries :=
  match Text.Utf8.decode? content with
  | none => .error .notText
  | some text =>
    match Toml.document text with
    | .error .malformed => .error .malformed
    | .error .longNumber => .error .longNumber
    | .ok entries => sectionAt sectionPath entries

/-- The name of the setting for a key, which may have hyphens in place of underscores. -/
def settingName (key : String) : String :=
  String.ofList (key.toList.map fun c => if c = '-' then '_' else c)

/-- The values of a section by the names of their settings. -/
def sectionValues : Entries → Except LoadError Entries :=
  List.foldlM (fun values (key, value) =>
    if RunConfig.fieldNames.contains (settingName key) then
      .ok (values.set (settingName key) value)
    else .error (.unknownKey key)) ([] : Entries)

/-- The values with those that override them.  A missing value overrides nothing. -/
def overridden (values overrides : Entries) : Except LoadError Entries :=
  overrides.foldlM (fun values (name, value) =>
    if RunConfig.fieldNames.contains name then
      .ok (if value.isAbsent then values else values.set name value)
    else .error (.unknownOption name)) values

/-- The configuration of a project, whose file may be missing, with overriding values. -/
def load (processors : Option Int) (content : Option (List UInt8)) (overrides : Entries) :
    Except LoadError RunConfig := do
  let found ← match content with
    | some content => readSection content
    | none => .ok []
  let values ← overridden (← sectionValues found) overrides
  (RunConfig.ofValues processors values).mapError .rejected

end MutationTesting.Settings
