import MutationTesting.Testing.Outcome
import MutationTesting.Text.Order
import MutationTesting.Text.Utf8

/-!
# Scripted runners

A scripted runner starts no process.  It looks at some files and answers by the first rule that fits
what it sees, so that a run can be tried out with outcomes known beforehand.
-/

namespace MutationTesting.Testing

open MutationTesting.Files

/-- An answer to a request. -/
inductive Reaction where
  | failures (count : Nat)
  | timeout
  | notStarted (text : String)
  | crash (kind text : String)
deriving DecidableEq, Repr

/-- A rule of a script.  It fits if some watched text has the part, and if the path of some test has
the ending; what is not given fits always. -/
structure Rule where
  part : Option String
  ending : Option String
  reaction : Reaction
deriving DecidableEq, Repr

structure Script where
  /-- The directory that requests without one are made from. -/
  directory : Path
  /-- The files to look at, seen from the directory of the request. -/
  watched : List Path
  rules : List Rule
deriving DecidableEq, Repr

namespace Script

/-- The directory that the files of a request are seen from. -/
def base (s : Script) (request : TestRun) : Path := request.options.directory.getD s.directory

/-- The watched files as they are seen by a request. -/
def observe (s : Script) (fs : FileSystem) (request : TestRun) :
    Except FileError (List (Path × String)) :=
  s.watched.mapM fun name => do
    let content ← fs.read (Path.join (s.base request) name)
    pure (name, String.ofList (Text.Utf8.decodeLossy content))

/-- Whether a part occurs in a text. -/
def occurs (part : List Char) : List Char → Bool
  | [] => part.isEmpty
  | c :: rest => part.isPrefixOf (c :: rest) || occurs part rest

def fits (texts : List String) (tests : List Path) (rule : Rule) : Bool :=
  (rule.part.all fun part => texts.any fun text => occurs part.toList text.toList) &&
    rule.ending.all fun ending => tests.any (Text.endsWith ending)

/-- The outcome that a reaction stands for. -/
def outcome (request : TestRun) : Reaction → Except RunFailure Nat
  | .failures count => .ok count
  | .timeout =>
    if request.timeout.isWithinRange then .error (.timeout request.timeout)
    else .error (.crashed (.message "OverflowError" "int too large to convert to float"))
  | .notStarted text => .error (.notStarted text)
  | .crash kind text => .error (.crashed (.message kind text))

/-- The runner that follows a script.  Without a rule that fits, no test fails. -/
def runner (s : Script) : Runner := fun fs request =>
  match s.observe fs request with
  | .error e => .error (.crashed (.file e))
  | .ok texts =>
    match s.rules.find? (fits (texts.map (·.2)) request.tests) with
    | none => .ok 0
    | some rule => outcome request rule.reaction

end Script

end MutationTesting.Testing
