import MutationTesting.Testing.Outcome
import MutationTesting.Testing.Tally
import MutationTesting.Text.Utf8

/-!
# Tests in a process

`runTests` starts a process for a request, stops it at the deadline, and reads the number of
failures from what it wrote.  How processes are started is up to a launcher.
-/

namespace MutationTesting.Testing

open MutationTesting.Files

/-- A process to be started. -/
structure Launch where
  command : List String
  environment : Environment
  /-- The directory to start in, if it is another one. -/
  directory : Option Path
  deadline : Amount
deriving DecidableEq, Repr

/-- Why a process cannot be started, and the path that is the cause. -/
structure StartError where
  code : Nat
  description : String
  path : String
deriving DecidableEq, Repr

namespace StartError

def ofFile (e : FileError) (path : String) : StartError := ⟨e.code, e.description, path⟩

/-- The error of a file that may not be executed. -/
def notPermitted (path : String) : StartError := ⟨13, "Permission denied", path⟩

def message (e : StartError) : String :=
  "[Errno " ++ Decimal.ofNat e.code ++ "] " ++ e.description ++ ": " ++ Text.quoted e.path

end StartError

/-- What becomes of a process. -/
inductive ProcessEnd where
  | exited (output : Bytes) (code : Int)
  /-- The deadline passed. -/
  | stopped (output : Bytes)
  | notStarted (e : StartError)
deriving DecidableEq, Repr

/-- Starts processes while it sees the files as they are. -/
abbrev Launcher := FileSystem → Launch → ProcessEnd

/-- What a finished process says about the tests. -/
structure TestOutcome where
  failures : Nat
  output : String
  exitCode : Int
deriving DecidableEq, Repr

/-- Why a process says nothing about the tests. -/
inductive ProcessFailure where
  | timeout (limit : Amount) (output : String)
  | notStarted (text : String)
  /-- The process reports a number with too many digits. -/
  | longCount (digits : Nat)
deriving DecidableEq, Repr

/-- The text of an output; bytes that are no text are replaced. -/
def outputText (output : Bytes) : String := String.ofList (Text.Utf8.decodeLossy output)

/-- The process that a request asks for. -/
def launchOf (installation : Installation) (parent : Environment) (request : TestRun) : Launch :=
  { command := buildCommand installation request.options request.tests
    environment := buildEnvironment installation parent request.options
    directory := request.options.directory
    deadline := request.timeout }

/-- Runs tests in a process. -/
def runTests (installation : Installation) (parent : Environment) (launcher : Launcher)
    (fs : FileSystem) (request : TestRun) : Except ProcessFailure TestOutcome :=
  match launcher fs (launchOf installation parent request) with
  | .exited output code =>
    let text := outputText output
    match countFailures text with
    | .ok failures => .ok ⟨failures, text, code⟩
    | .error e => .error (.longCount e.digits.length)
  | .stopped output => .error (.timeout request.timeout (outputText output))
  | .notStarted e => .error (.notStarted ("cannot start test process: " ++ e.message))

/-- The text about a number that has too many digits to be read. -/
def longCountMessage (digits : Nat) : String :=
  "Exceeds the limit (" ++ Decimal.ofNat Decimal.maxDigits ++
    " digits) for integer string conversion: value has " ++ Decimal.ofNat digits ++
    " digits; use sys.set_int_max_str_digits() to increase the limit"

/-- The runner that starts a process for every request. -/
def processRunner (installation : Installation) (parent : Environment) (launcher : Launcher) :
    Runner := fun fs request =>
  match runTests installation parent launcher fs request with
  | .ok outcome => .ok outcome.failures
  | .error (.timeout limit _) => .error (.timeout limit)
  | .error (.notStarted text) => .error (.notStarted text)
  | .error (.longCount digits) => .error (.crashed (.message "ValueError" (longCountMessage digits)))

end MutationTesting.Testing
