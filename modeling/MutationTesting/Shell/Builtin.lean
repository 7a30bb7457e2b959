import MutationTesting.Shell.Condition
import MutationTesting.Shell.Process
import MutationTesting.Text.Order
import MutationTesting.Text.Quoted

/-!
# The commands of the small shell

`builtin` carries out a command that is part of the shell, `program?` one that is a program of its
own.
-/

namespace MutationTesting.Shell

open MutationTesting.Files

/-- A number of seconds with an optional unit. -/
def seconds? (text : String) : Option Binary64 :=
  let cs := text.toList
  let (number, unit) := (cs.takeWhile fun c => Text.isAsciiDigit c || c == '.',
    cs.dropWhile fun c => Text.isAsciiDigit c || c == '.')
  let whole := number.takeWhile (· != '.')
  let places := (number.dropWhile (· != '.')).drop 1
  let factor? := match unit with
    | [] => some 1
    | ['s'] => some 1
    | ['m'] => some 60
    | ['h'] => some 3600
    | ['d'] => some 86400
    | _ => none
  if !number.any Text.isAsciiDigit || places.contains '.' then none
  else factor?.map fun factor =>
    Binary64.ofDecimal false (Decimal.toNat (whole ++ places) * factor) (-(places.length : Int))

/-- The end of what a program says about words that it does not understand. -/
def hint (name : String) : String := "Try '" ++ name ++ " --help' for more information."

def sleep (p : Process) (words : List String) : Process :=
  match words.filter fun text => (seconds? text).isNone with
  | [] =>
    if words.isEmpty then
      ((p.writeTo 2 (Process.line "sleep: missing operand")).writeTo 2
        (Process.line (hint "sleep"))).withStatus 1
    else
      (p.sleep ((words.filterMap seconds?).foldl Binary64.add Binary64.zero)).withStatus 0
  | bad =>
    ((bad.foldl (fun p text => p.writeTo 2
      (Process.line ("sleep: invalid time interval " ++ Text.quoted text))) p).writeTo 2
        (Process.line (hint "sleep"))).withStatus 1

/-- Writes the files of given paths, one after the other. -/
def catFiles (p : Process) : List String → Process
  | [] => p
  | "-" :: rest => catFiles { p.write p.input with input := [] } rest
  | path :: rest =>
    match p.files.read path with
    | .ok content => catFiles (p.write content) rest
    | .error e =>
      catFiles ((p.writeTo 2 (Process.line ("cat: " ++ path ++ ": " ++ e.description))).withStatus 1)
        rest

def cat (p : Process) (paths : List String) : Process :=
  catFiles (p.withStatus 0) (if paths.isEmpty then ["-"] else paths)

/-- Writes the names in directories, or the paths of files. -/
def listNames (p : Process) : List String → Process
  | [] => p
  | path :: rest =>
    if p.files.isDirectory path then
      let names := (p.files.names path).filter fun name => !Text.startsWith "." name
      listNames ((Text.sortedSet names).foldl Process.writeLine p) rest
    else if p.files.holds path then listNames (p.writeLine path) rest
    else
      listNames ((p.writeTo 2 (Process.line ("ls: cannot access " ++ Text.quoted path ++
        ": No such file or directory"))).withStatus 2) rest

/-- The numbers of the signals that have a name. -/
def signals : List (String × Nat) :=
  [("HUP", 1), ("INT", 2), ("QUIT", 3), ("ILL", 4), ("TRAP", 5), ("ABRT", 6), ("BUS", 7),
    ("FPE", 8), ("KILL", 9), ("USR1", 10), ("SEGV", 11), ("USR2", 12), ("PIPE", 13), ("ALRM", 14),
    ("TERM", 15)]

/-- The signal that a word names. -/
def signal? (word : List Char) : Option Nat :=
  if !word.isEmpty && word.all Text.isAsciiDigit then some (Decimal.toNat word)
  else
    let name := String.ofList word
    signals.lookup (if Text.startsWith "SIG" name then String.ofList (word.drop 3) else name)

/-- Sends the process a signal.  The signal zero changes nothing. -/
def kill (p : Process) (words : List String) : Process :=
  let signal := match words with
    | "-s" :: name :: _ => (signal? name.toList).getD 15
    | word :: _ =>
      match word.toList with
      | '-' :: name => (signal? name).getD 15
      | _ => 15
    | [] => 15
  if signal = 0 then p.withStatus 0 else { p with halt := some (.killed signal) }

/-- The status that a word asks for. -/
def statusOf (p : Process) : List String → Except String Nat
  | [] => .ok p.status
  | word :: _ =>
    if word != "" && word.toList.all Text.isAsciiDigit then .ok (Decimal.toNat word.toList % 256)
    else .error ("Illegal number: " ++ word)

/-- Leaves loops. -/
def leaveLoops (p : Process) (name : String) (goesOn : Bool) (words : List String) : Process :=
  match words with
  | [] => { p with leaving := some (.loops 1 goesOn), status := 0 }
  | word :: _ =>
    let count := Decimal.toNat (word.toList.filter Text.isAsciiDigit)
    if count = 0 then p.fail (name ++ ": Illegal number: " ++ word)
    else { p with leaving := some (.loops count goesOn), status := 0 }

/-- Sets options and the words that are referred to by number. -/
def setOptions (p : Process) : List String → Process
  | [] => p
  | "--" :: words => { p with words := p.name :: words }
  | word :: rest =>
    match word.toList with
    | '-' :: letters =>
      setOptions { p with endsOnFailure := p.endsOnFailure || letters.contains 'e' } rest
    | '+' :: letters =>
      setOptions { p with endsOnFailure := p.endsOnFailure && !letters.contains 'e' } rest
    | _ => { p with words := p.name :: word :: rest }

/-- Gives variables on, with new values where words say so. -/
def exportAll (p : Process) : List String → Process
  | [] => p
  | word :: rest =>
    match assignment? word.toList with
    | some (name, value) => exportAll ((p.set name (String.ofList value)).exports name) rest
    | none => exportAll (p.exports word) rest

/-- Sets variables that words assign to. -/
def setAll (p : Process) : List String → Process
  | [] => p
  | word :: rest =>
    match assignment? word.toList with
    | some (name, value) => setAll (p.set name (String.ofList value)) rest
    | none => setAll p rest

/-- Reads a line into variables.  The last one takes all that is left. -/
def readLine (p : Process) (names : List String) : Process :=
  let isEnd (b : UInt8) := b == 10
  let cs := Text.strip (Text.Utf8.decodeLossy (p.input.takeWhile (!isEnd ·)))
  let rest := p.input.dropWhile (!isEnd ·)
  let setFrom := names.foldl (fun ((p : Process), (cs : List Char), (left : Nat)) name =>
    let cs := cs.dropWhile isSpace
    if left ≤ 1 then (p.set name (String.ofList cs), [], 0)
    else
      (p.set name (String.ofList (cs.takeWhile fun c => !isSpace c)),
        cs.dropWhile fun c => !isSpace c, left - 1)) (p, cs, names.length)
  { setFrom.1 with input := rest.drop 1, status := if rest.isEmpty then 1 else 0 }

def changeDirectory (p : Process) (words : List String) : Process :=
  let path := (words.head?).getD ((p.value? "HOME").getD "")
  let place := Path.absolute p.location path
  if path = "" then p.withStatus 0
  else if p.files.isDirectory place then
    { p.set "PWD" place with
      files := { p.files with directory := p.files.realPath place }, status := 0 }
  else (p.complain ("cd: can't cd to " ++ path)).withStatus 2

/-- Decides a condition. -/
def decideCondition (p : Process) (name : String) (words : List String) : Process :=
  match Condition.holds p.files words with
  | .ok true => p.withStatus 0
  | .ok false => p.withStatus 1
  | .error text => (p.complain (name ++ ": " ++ text)).withStatus 2

/-- Writes a format as the shell does. -/
def shellPrintf (p : Process) (words : List String) : Process :=
  let (bytes, remarks) := printf false words
  let failures := remarks.filter Remark.isFailure
  let said := (remarks.filterMap Remark.ofShell?).foldl
    (fun (p : Process) text => p.complain ("printf: " ++ text)) p
  (said.write bytes).withStatus
    (if remarks.contains .noFormat then 2 else if failures.isEmpty then 0 else 1)

/-- Carries out a program by its name, if it is one of those that are known. -/
def program? (p : Process) (name : String) (words : List String) : Option Process :=
  match name with
  | "echo" => some ((p.write (programEcho true false words)).withStatus 0)
  | "printf" =>
    let (bytes, remarks) := printf true words
    let said := remarks.foldl (fun p remark =>
      p.writeTo 2 (Process.line ("printf: " ++ remark.ofProgram))) p
    some ((said.write bytes).withStatus (if remarks.any Remark.isFailure then 1 else 0))
  | "sleep" => some (sleep p words)
  | "true" => some (p.withStatus 0)
  | "false" => some (p.withStatus 1)
  | "cat" => some (cat p words)
  | "pwd" => some ((p.writeLine (p.files.realPath p.files.directory)).withStatus 0)
  | "ls" => some (listNames (p.withStatus 0) (if words.isEmpty then ["."] else words))
  | "printenv" =>
    some (match words with
      | [] => p.withStatus 0
      | name :: _ =>
        match if p.exported.contains name then p.value? name else none with
        | some value => (p.writeLine value).withStatus 0
        | none => p.withStatus 1)
  | _ => none

/-- The directories of the system's programs. -/
def systemDirectories : List Path := ["/bin", "/usr/bin"]

/-- The name of a program that a path leads to. -/
def programName (path : Path) : String :=
  if systemDirectories.contains (Path.parent path) then Path.baseName path else path

/-- What the shell says of a command that it cannot find. -/
def missing (p : Process) (name : String) : Process :=
  if name.toList.contains '/' && p.files.leadsSomewhere name then
    (p.complain (name ++ ": Permission denied")).withStatus 126
  else (p.complain (name ++ ": not found")).withStatus 127

/-- Carries out a command of the shell, or else a program. -/
def builtin (p : Process) (name : String) (words : List String) : Process :=
  match name with
  | "echo" => (p.write (shellEcho words)).withStatus 0
  | "printf" => shellPrintf p words
  | "pwd" => (p.writeLine p.location).withStatus 0
  | ":" => p.withStatus 0
  | "cd" => changeDirectory p words
  | "test" => decideCondition p name words
  | "[" =>
    if words.getLast? = some "]" then decideCondition p name words.dropLast
    else (p.complain "[: missing ]").withStatus 2
  | "exit" =>
    match statusOf p words with
    | .ok status => { p with halt := some (.exited status) }
    | .error text => p.fail ("exit: " ++ text)
  | "return" =>
    match statusOf p words with
    | .ok status => { p with leaving := some .function, status }
    | .error text => p.fail ("return: " ++ text)
  | "break" => leaveLoops p name false words
  | "continue" => leaveLoops p name true words
  | "shift" =>
    let count := match words with
      | [] => 1
      | word :: _ => Decimal.toNat word.toList
    if p.words.length ≤ count then p.fail "shift: can't shift that many"
    else { p with words := p.name :: p.words.drop (count + 1), status := 0 }
  | "set" => (setOptions p words).withStatus 0
  | "export" => (exportAll p words).withStatus 0
  | "readonly" => (setAll p words).withStatus 0
  | "local" => (setAll p words).withStatus 0
  | "unset" => (words.foldl Process.unset p).withStatus 0
  | "read" => readLine p words
  | "wait" => p.join.withStatus 0
  | "kill" => kill p words
  | "trap" => p.withStatus 0
  | "umask" => p.withStatus 0
  | _ => (program? p (programName name) words).getD (missing p name)

end MutationTesting.Shell
