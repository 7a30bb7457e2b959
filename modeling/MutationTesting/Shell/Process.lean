import MutationTesting.Files.FileSystem
import MutationTesting.Number.Decimal
import MutationTesting.Shell.Command
import MutationTesting.Testing.Invocation
import MutationTesting.Text.Utf8

/-!
# A process of the small shell

What a process has and knows: files, variables, streams, the time it has slept.  Streams lead to
buffers, the first of which is the output of the process as others see it.
-/

namespace MutationTesting.Shell

open MutationTesting.Files
open MutationTesting.Testing

/-- Why a process goes on no longer. -/
inductive Halt where
  | exited (status : Nat)
  | killed (signal : Nat)
  /-- The deadline passed. -/
  | stopped
deriving DecidableEq, Repr

/-- What the rest of a body is left out for. -/
inductive Leaving where
  /-- So many loops end; the last of them may go on with its next turn. -/
  | loops (count : Nat) (goesOn : Bool)
  | function
deriving DecidableEq, Repr

/-- Where a stream leads to. -/
inductive Sink where
  | buffer (index : Nat)
  | file (path : Path)
  | nowhere
deriving DecidableEq, Repr

structure Process where
  files : FileSystem
  environment : Environment
  /-- The variables that a program is given. -/
  exported : List String
  functions : List (String × Command) := []
  /-- The words that a script refers to by number.  The first one is its name. -/
  words : List String
  streams : List (Nat × Sink) := [(1, .buffer 0), (2, .buffer 0)]
  buffers : List Bytes := [[]]
  input : Bytes := []
  deadline : Binary64
  /-- How long the process has slept, in seconds. -/
  elapsed : Binary64 := Binary64.zero
  /-- How long those in the background have slept, and what they have written. -/
  elapsedBehind : Binary64 := Binary64.zero
  writtenBehind : Bytes := []
  /-- The line of the script that is being carried out. -/
  lineNumber : Nat := 1
  /-- How the last command ended; zero stands for success. -/
  status : Nat := 0
  /-- Whether a failure ends the process. -/
  endsOnFailure : Bool := false
  /-- Whether a failure is expected for now, so that it ends nothing. -/
  isTesting : Bool := false
  leaving : Option Leaving := none
  halt : Option Halt := none

namespace Process

def withStatus (p : Process) (status : Nat) : Process := { p with status }

def sink (p : Process) (stream : Nat) : Sink := (p.streams.lookup stream).getD .nowhere

/-- Writes to a stream. -/
def writeTo (p : Process) (stream : Nat) (bytes : Bytes) : Process :=
  match p.sink stream with
  | .nowhere => p
  | .buffer index => { p with buffers := p.buffers.modify index (· ++ bytes) }
  | .file path =>
    let before := match p.files.read path with
      | .ok content => content
      | .error _ => []
    match p.files.write path (before ++ bytes) with
    | .ok files => { p with files }
    | .error _ => p

def write (p : Process) (bytes : Bytes) : Process := p.writeTo 1 bytes

def line (text : String) : Bytes := Text.Utf8.encode text.toList ++ [10]

def writeLine (p : Process) (text : String) : Process := p.write (line text)

def name (p : Process) : String := (p.words.head?).getD "sh"

/-- Says what is wrong with a command. -/
def complain (p : Process) (text : String) : Process :=
  p.writeTo 2 (line (p.name ++ ": " ++ Decimal.ofNat p.lineNumber ++ ": " ++ text))

/-- Says what is wrong, and ends. -/
def fail (p : Process) (text : String) : Process :=
  { p.complain text with status := 2, halt := some (.exited 2) }

def isOver (p : Process) : Bool := p.halt.isSome || p.leaving.isSome

/-- The directory as the shell shows it. -/
def location (p : Process) : String :=
  (p.environment.get? "PWD").getD (p.files.realPath p.files.directory)

/-- The value of a variable or a numbered word, if it has one. -/
def value? (p : Process) (name : String) : Option String :=
  match name.toList with
  | ['?'] => some (Decimal.ofNat p.status)
  | ['#'] => some (Decimal.ofNat (p.words.length - 1))
  | ['@'] => some (String.intercalate " " (p.words.drop 1))
  | ['*'] => some (String.intercalate " " (p.words.drop 1))
  | ['$'] => some "1"
  | ['-'] => some (if p.endsOnFailure then "e" else "")
  | cs =>
    if !cs.isEmpty && cs.all Text.isAsciiDigit then p.words[Decimal.toNat cs]?
    else p.environment.get? name

def set (p : Process) (name value : String) : Process :=
  { p with environment := p.environment.set name value }

def exports (p : Process) (name : String) : Process :=
  if p.exported.contains name then p else { p with exported := p.exported ++ [name] }

def unset (p : Process) (name : String) : Process :=
  { p with
    environment := p.environment.filter (·.1 ≠ name)
    exported := p.exported.filter (· ≠ name)
    functions := p.functions.filter (·.1 ≠ name) }

/-- Lets time pass. -/
def sleep (p : Process) (seconds : Binary64) : Process :=
  let elapsed := p.elapsed.add seconds
  if p.deadline.lt elapsed then { p with elapsed, halt := some .stopped } else { p with elapsed }

/-- Waits for those in the background. -/
def join (p : Process) : Process :=
  let written := p.writeTo 1 p.writtenBehind
  let p := { written with writtenBehind := [] }
  if p.deadline.lt p.elapsedBehind then { p with halt := some .stopped }
  else if p.elapsed.lt p.elapsedBehind then { p with elapsed := p.elapsedBehind }
  else p

/-- The process after a part of it that was carried out apart: what that part changed for itself is
as before. -/
def after (p part : Process) : Process :=
  { p with
    files := { part.files with directory := p.files.directory }
    buffers := part.buffers
    input := part.input
    elapsed := part.elapsed
    elapsedBehind := part.elapsedBehind
    writtenBehind := part.writtenBehind
    status := match part.halt with
      | some (.exited status) => status
      | _ => part.status
    halt := match part.halt with
      | some (.exited _) => none
      | halt => halt }

/-- Why a file cannot be opened to be written. -/
def creationError : FileError → String
  | .notFound => "Directory nonexistent"
  | e => e.description

/-- Why a file cannot be opened to be read. -/
def openingError : FileError → String
  | .notFound => "No such file"
  | e => e.description

/-- Sends a stream elsewhere, or says why that cannot be. -/
def redirect (p : Process) (source : Nat) (direction : Direction) (target : String) :
    Except String Process :=
  let leadTo (sink : Sink) : Process := { p with streams := (source, sink) :: p.streams }
  let opened (content : Bytes) : Except String Process :=
    match p.files.write target content with
    | .ok files => .ok { leadTo (.file (p.files.absolute target)) with files }
    | .error e => .error ("cannot create " ++ target ++ ": " ++ creationError e)
  match direction with
  | .duplicate =>
    if target = "-" then .ok (leadTo .nowhere)
    else
      match target.toList.filter Text.isAsciiDigit with
      | [] => .error (target ++ ": bad fd number")
      | digits => .ok (leadTo (p.sink (Decimal.toNat digits)))
  | .input =>
    if target = "/dev/null" then .ok { p with input := [] }
    else
      match p.files.read target with
      | .ok input => .ok { p with input }
      | .error e => .error ("cannot open " ++ target ++ ": " ++ openingError e)
  | .output | .append =>
    if target = "/dev/null" then .ok (leadTo .nowhere)
    else if target = "/dev/stdout" then .ok (leadTo (p.sink 1))
    else if target = "/dev/stderr" then .ok (leadTo (p.sink 2))
    else
      match direction, p.files.read target with
      | .append, .ok content => opened content
      | _, _ => opened []

end Process

/-- The words that a word stands for: those that have ended, and the one that has begun. -/
structure Fields where
  ended : List String := []
  current : Option (List Char) := none
  /-- Whether a wildcard stands in the word without quotes. -/
  hasWildcard : Bool := false

namespace Fields

/-- A text added to the word that has begun. -/
def add (f : Fields) (cs : List Char) : Fields :=
  { f with current := some (f.current.getD [] ++ cs) }

/-- The fields after the end of a word. -/
def endWord (f : Fields) : Fields :=
  { f with ended := f.ended ++ (f.current.map String.ofList).toList, current := none }

/-- A text added, whose blanks end words. -/
def addSplit (f : Fields) : List Char → Fields
  | [] => f
  | c :: rest =>
    if isSpace c || c == '\n' then addSplit f.endWord rest else addSplit (f.add [c]) rest

/-- A list of words added, the first of which goes on with the word that has begun. -/
def addWords (f : Fields) : List String → Fields
  | [] => f
  | [word] => f.add word.toList
  | word :: rest => addWords (f.add word.toList).endWord rest

def words (f : Fields) : List String := f.endWord.ended

end Fields

end MutationTesting.Shell
