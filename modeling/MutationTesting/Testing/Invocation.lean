import MutationTesting.Text.Order
import MutationTesting.Text.Split

/-!
# How tests are started

Tests run in a process of their own.  `buildCommand` and `buildEnvironment` say what is started and
with which environment, so that the process can report its summary.
-/

namespace MutationTesting.Testing

/-- Variables and their values, each variable once. -/
abbrev Environment := List (String × String)

namespace Environment

def get? (e : Environment) (name : String) : Option String := e.lookup name

/-- The environment with a variable changed in its place, or added at the end. -/
def set (name value : String) : Environment → Environment
  | [] => [(name, value)]
  | (n, v) :: rest => if n = name then (n, value) :: rest else (n, v) :: set name value rest

/-- The environment with all variables of another one. -/
def update (e changes : Environment) : Environment :=
  changes.foldl (fun e (name, value) => e.set name value) e

end Environment

/-- How a test process is started. -/
structure InvocationOptions where
  /-- A command in place of the usual one.  An empty one counts as none. -/
  command : Option (List String) := none
  /-- The name of the environment, which the process can ask for. -/
  environmentName : String := "test"
  directory : Option String := none
  environment : Environment := []
deriving DecidableEq, Repr, Inhabited

/-- Where the interpreter and the summary plugin are installed. -/
structure Installation where
  interpreter : String
  pluginRoot : String
deriving DecidableEq, Repr

/-- The usual command: the test runner, with the plugin that writes the summary. -/
def defaultCommand (installation : Installation) : List String :=
  [installation.interpreter, "-m", "pytest", "-q", "--no-header", "-p", "no:cacheprovider",
    "-p", "mutascope.pytest_summary"]

/-- The command with the test files after it. -/
def buildCommand (installation : Installation) (o : InvocationOptions) (tests : List String) :
    List String :=
  (match o.command with
    | some (first :: rest) => first :: rest
    | _ => defaultCommand installation) ++ tests

/-- The variable that lists the directories modules are imported from. -/
def searchPathName : String := "PYTHONPATH"

def pathSeparator : Char := ':'

/-- The entries of a search path that are not empty. -/
def searchPathEntries (value : String) : List String :=
  (Text.pieces pathSeparator value).filter (· ≠ "")

def searchPathText (entries : List String) : String := String.intercalate ":" entries

/-- The environment of a test process: that of the parent with the changes of the options.  The
process can import the plugin, writes no compiled files, and knows the name of its environment. -/
def buildEnvironment (installation : Installation) (parent : Environment) (o : InvocationOptions) :
    Environment :=
  let merged := parent.update o.environment
  let entries := searchPathEntries ((merged.get? searchPathName).getD "")
  let reachable :=
    if entries.contains installation.pluginRoot then merged
    else merged.set searchPathName (searchPathText (entries ++ [installation.pluginRoot]))
  (reachable.set "PYTHONDONTWRITEBYTECODE" "1").set "MUTASCOPE_ENV" o.environmentName

end MutationTesting.Testing
