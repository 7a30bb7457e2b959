import MutationTesting.Files.Glob
import MutationTesting.Shell.Arithmetic
import MutationTesting.Shell.Builtin

/-!
# Carrying out a script

`runScript` carries out the lines of a script one after the other.  Every step counts against a
bound; a script that uses it up goes on for longer than anyone waits, so it passes its deadline.
-/

namespace MutationTesting.Shell

open MutationTesting.Files
open MutationTesting.Text

/-- The process when it has used up the bound. -/
def Process.stop (p : Process) : Process := { p with halt := some .stopped }

/-- A text without the part at an end that a pattern matches. -/
def trimmed (atEnd isLongest : Bool) (pattern : String) (cs : List Char) : List Char :=
  let counts := List.range (cs.length + 1)
  let counts := if isLongest then counts.reverse else counts
  let parted (count : Nat) : List Char × List Char :=
    if atEnd then (cs.drop (cs.length - count), cs.take (cs.length - count))
    else (cs.take count, cs.drop count)
  match counts.find? fun count => matchesPattern pattern (String.ofList (parted count).1) with
  | some count => (parted count).2
  | none => cs

/-- A text without the line ends at its end. -/
def withoutLineEnds (cs : List Char) : List Char :=
  (cs.reverse.dropWhile (· == '\n')).reverse

/-- Whether a word stands for all the words that the script was given, each for itself. -/
def isEveryWord (pieces : List Piece) : Bool :=
  decide (pieces = [.text [] true, .parameter "@" .value true, .text [] true])

/-- Whether a script is carried out for a word. -/
def runsScript (word : Word) : Bool :=
  (piecesOf false word).any fun piece =>
    match piece with
    | .written .. => true
    | _ => false

/-- A word, or the paths that match it. -/
def pathsFor (p : Process) (hasWildcard : Bool) (word : String) : List String :=
  if hasWildcard then
    match sortedSet (Glob.expand p.files word) with
    | [] => [word]
    | paths => paths
  else [word]

/-- Sets a variable to what it was in another process. -/
def restoreVariable (before : Process) (p : Process) (name : String) : Process :=
  match before.environment.get? name with
  | some value =>
    let p := p.set name value
    if before.exported.contains name then p
    else { p with exported := p.exported.filter (· ≠ name) }
  | none => p.unset name

/-- A process for a shell of its own, which knows only what it is given. -/
def Process.child (p : Process) (words : List String) : Process :=
  { p with
    environment := p.environment.filter fun v => p.exported.contains v.1
    functions := [], words, endsOnFailure := false, isTesting := false, leaving := none
    lineNumber := 1 }

/-- The process after a child, which was killed if a signal reached it. -/
def Process.afterChild (p child : Process) : Process :=
  let q := p.after { child with halt := match child.halt with
    | some (.killed signal) => some (.exited (128 + signal))
    | halt => halt }
  { q with leaving := p.leaving }

/-- The process after a command, which ends if the command failed and nothing expected it. -/
def Process.checked (p : Process) : Process :=
  if p.endsOnFailure && !p.isTesting && p.status ≠ 0 && !p.isOver then
    { p with halt := some (.exited p.status) }
  else p

/-- The process after a body of a loop, and whether the loop goes on. -/
def Process.afterTurn (p : Process) : Process × Bool :=
  match p.leaving with
  | some (.loops count goesOn) =>
    if count ≤ 1 then ({ p with leaving := none }, goesOn && p.halt.isNone)
    else ({ p with leaving := some (.loops (count - 1) goesOn) }, false)
  | some .function => (p, false)
  | none => (p, p.halt.isNone)

mutual

/-- A word with one more piece. -/
def addPiece : Nat → Process → Fields → Piece → Process × Fields
  | 0, p, f, _ => (p.stop, f)
  | bound + 1, p, f, piece =>
    let added (f : Fields) (isQuoted : Bool) (cs : List Char) : Fields :=
      if isQuoted then f.add cs else f.addSplit cs
    match piece with
    | .text cs isQuoted =>
      (p, { f.add cs with
        hasWildcard := f.hasWildcard || (!isQuoted && Glob.hasWildcard (String.ofList cs)) })
    | .written script isQuoted =>
      let (p, cs) := captured bound p script
      (p, added f isQuoted (withoutLineEnds cs))
    | .computed expression isQuoted =>
      let (p, cs) := textOf bound p expression
      let lookUp (name : String) : Int := (numberOfWord ((p.value? name).getD "0")).1
      match Arithmetic.value? lookUp cs with
      | some n => (p, added f isQuoted (Decimal.ofInt n).toList)
      | none =>
        (p.fail ("arithmetic expression: expecting primary: \"" ++ String.ofList cs ++ "\""), f)
    | .parameter name form isQuoted =>
      let value? := p.value? name
      let cs := (value?.getD "").toList
      let isMissing (emptyCounts : Bool) : Bool := value?.isNone || (emptyCounts && cs.isEmpty)
      match form with
      | .value =>
        if name = "@" && isQuoted then (p, f.addWords (p.words.drop 1))
        else (p, added f isQuoted cs)
      | .size => (p, added f isQuoted (Decimal.ofNat cs.length).toList)
      | .orElse emptyCounts isKept text =>
        if isMissing emptyCounts then
          if isKept then
            let (p, cs) := textOf bound p text
            (p.set name (String.ofList cs), added f isQuoted cs)
          else addPieces bound p f (piecesOf isQuoted text)
        else (p, added f isQuoted cs)
      | .ifSet emptyCounts text =>
        if isMissing emptyCounts then (p, f) else addPieces bound p f (piecesOf isQuoted text)
      | .required emptyCounts text =>
        if isMissing emptyCounts then
          let (p, cs) := textOf bound p text
          let reason :=
            if cs.isEmpty then
              (if emptyCounts then "parameter not set or null" else "parameter not set").toList
            else cs
          (p.fail (name ++ ": " ++ String.ofList reason), f)
        else (p, added f isQuoted cs)
      | .trimmed atEnd isLongest pattern =>
        let (p, pattern) := textOf bound p pattern
        (p, added f isQuoted (trimmed atEnd isLongest (String.ofList pattern) cs))

/-- A word with more pieces. -/
def addPieces : Nat → Process → Fields → List Piece → Process × Fields
  | 0, p, f, _ => (p.stop, f)
  | bound + 1, p, f, pieces =>
    pieces.foldl (fun ((p : Process), (f : Fields)) piece => addPiece bound p f piece) (p, f)

/-- What a word stands for where it is not split. -/
def textOf : Nat → Process → Word → Process × List Char
  | 0, p, _ => (p.stop, [])
  | bound + 1, p, word =>
    let (p, f) := addPieces bound p {} ((piecesOf false word).map Piece.quoted)
    (p, (String.intercalate " " f.words).toList)

/-- The words that a word stands for. -/
def wordsOf : Nat → Process → Word → Process × List String
  | 0, p, _ => (p.stop, [])
  | bound + 1, p, word =>
    let pieces := piecesOf false word
    if isEveryWord pieces then (p, p.words.drop 1)
    else
      let (p, f) := addPieces bound p {} pieces
      (p, f.words.flatMap (pathsFor p f.hasWildcard))

/-- The words that a list of words stands for. -/
def allWordsOf : Nat → Process → List Word → Process × List String
  | 0, p, _ => (p.stop, [])
  | bound + 1, p, words =>
    words.foldl (fun ((p : Process), (found : List String)) word =>
      let (p, more) := wordsOf bound p word
      (p, found ++ more)) (p, [])

/-- What a script writes when it is carried out apart. -/
def captured : Nat → Process → List Char → Process × List Char
  | 0, p, _ => (p.stop, [])
  | bound + 1, p, script =>
    let inside := { p with
      buffers := p.buffers ++ [[]]
      streams := (1, .buffer p.buffers.length) :: p.streams }
    let q := p.after (runScript bound inside script)
    ({ q with buffers := q.buffers.dropLast }, Utf8.decodeLossy (q.buffers.getLastD []))

/-- Carries out the lines of a script. -/
def runScript : Nat → Process → List Char → Process
  | 0, p, _ => p.stop
  | bound + 1, p, script => runLines bound p (tokens (script.length + 1) 1 script)

def runLines : Nat → Process → Tokens → Process
  | 0, p, _ => p.stop
  | bound + 1, p, ts =>
    if p.isOver then p
    else
      match nextLine ts with
      | .error complaint =>
        { p with lineNumber := complaint.line }.fail ("Syntax error: " ++ complaint.text)
      | .ok none => p
      | .ok (some (command, rest)) => runLines bound (run bound p command) rest

/-- Sends streams elsewhere, one after the other, unless something is wrong with one of them. -/
def redirectAll : Nat → Process → List Redirection → Process × Bool
  | 0, p, _ => (p.stop, false)
  | bound + 1, p, redirections =>
    redirections.foldl (fun ((p : Process), (isWell : Bool)) r =>
      if !isWell then (p, false)
      else
        let (p, target) := textOf bound p r.target
        match p.redirect r.source r.direction (String.ofList target) with
        | .ok p => (p, true)
        | .error text => ((p.complain text).withStatus 2, false)) (p, true)

/-- Carries out a command whose words are known. -/
def perform : Nat → Process → String → List String → Process
  | 0, p, _, _ => p.stop
  | bound + 1, p, name, words =>
    match p.functions.lookup name with
    | some body =>
      let q := run bound { p with words := p.name :: words } body
      { q with
        words := p.words
        leaving := if q.leaving = some .function then none else q.leaving }
    | none =>
      match programName name with
      | "eval" => runScript bound p (String.intercalate " " words).toList
      | "exec" =>
        match words with
        | [] => p.withStatus 0
        | name :: words =>
          let q := perform bound p name words
          if q.halt.isSome then q else { q with halt := some (.exited q.status) }
      | "command" =>
        match words with
        | [] => p.withStatus 0
        | name :: words => perform bound { p with functions := [] } name words
      | "." =>
        let path := (words.head?).getD ""
        match p.files.read path with
        | .ok content => runScript bound p (Utf8.decodeLossy content)
        | .error e => p.fail (".: cannot open " ++ path ++ ": " ++ Process.openingError e)
      | "sh" => p.afterChild (shell bound (p.child ["sh"]) words)
      | _ => builtin p name words

/-- Carries out a shell with its words. -/
def shell : Nat → Process → List String → Process
  | 0, p, _ => p.stop
  | bound + 1, p, words =>
    match words with
    | [] => runScript bound { p with input := [] } (Utf8.decodeLossy p.input)
    | word :: rest =>
      match word.toList with
      | '-' :: letters =>
        let p := { p with endsOnFailure := p.endsOnFailure || letters.contains 'e' }
        if letters.contains 'c' then
          match rest with
          | [] => { p with lineNumber := 0 }.fail "-c requires an argument"
          | script :: words =>
            runScript bound { p with words := if words.isEmpty then p.words else words }
              script.toList
        else shell bound p rest
      | _ =>
        match p.files.read word with
        | .ok content => runScript bound { p with words } (Utf8.decodeLossy content)
        | .error e =>
          { p with lineNumber := 0 }.fail
            ("cannot open " ++ word ++ ": " ++ Process.openingError e)

/-- Repeats a body as long as a test goes as it should. -/
def turns : Nat → Process → Bool → Command → Command → Process
  | 0, p, _, _, _ => p.stop
  | bound + 1, p, onSuccess, test, body =>
    let q := run bound { p with isTesting := true } test
    let q := { q with isTesting := p.isTesting }
    if q.isOver then q.afterTurn.1
    else if decide (q.status = 0) = onSuccess then
      let (r, goesOn) := (run bound (q.withStatus 0) body).afterTurn
      if goesOn then turns bound r onSuccess test body else r
    else q.withStatus p.status

def run : Nat → Process → Command → Process
  | 0, p, _ => p.stop
  | bound + 1, p, command =>
    if p.isOver then p
    else
      match command with
      | .nothing => p
      | .simple lineNumber assignments words redirections =>
        let (p, found) := allWordsOf bound { p with lineNumber } words
        let assigned := assignments.foldl (fun (p : Process) (name, word) =>
          let (p, cs) := textOf bound p word
          p.set name (String.ofList cs)) p
        if assigned.isOver then assigned
        else
          let (inside, isWell) := redirectAll bound assigned redirections
          let restored (q : Process) : Process :=
            { q with
              streams := p.streams
              input := if redirections.any (·.source = 0) then p.input else q.input }
          match found with
          | [] =>
            let runsAny := words.any runsScript || assignments.any fun (_, word) => runsScript word
            restored (if isWell && !runsAny then inside.withStatus 0 else inside)
          | name :: arguments =>
            if !isWell then (restored inside).checked
            else
              let given := assignments.foldl (fun (q : Process) (name, _) => q.exports name) inside
              let q := perform bound given name arguments
              let q := assignments.foldl (fun q (name, _) => restoreVariable p q name) q
              if name = "exec" && arguments.isEmpty then q.checked else (restored q).checked
      | .sequence first second => run bound (run bound p first) second
      | .guarded onSuccess first second =>
        let q := run bound { p with isTesting := true } first
        let q := { q with isTesting := p.isTesting }
        if decide (q.status = 0) = onSuccess then run bound q second else q
      | .negated command =>
        let q := run bound { p with isTesting := true } command
        let q := { q with isTesting := p.isTesting }
        if q.isOver then q else q.withStatus (if q.status = 0 then 1 else 0)
      | .piped first second =>
        let inside := { p with
          buffers := p.buffers ++ [[]]
          streams := (1, .buffer p.buffers.length) :: p.streams }
        let q := p.after (run bound inside first)
        let reading := { q with
          buffers := q.buffers.dropLast, input := q.buffers.getLastD [], elapsed := p.elapsed }
        let r := q.after (run bound reading second)
        let elapsed := if r.elapsed.lt q.elapsed then q.elapsed else r.elapsed
        { r with input := p.input, elapsed }.checked
      | .background command =>
        let q := run bound { p with buffers := p.buffers.map fun _ => [], input := [] } command
        { p with
          elapsedBehind := if p.elapsedBehind.lt q.elapsed then q.elapsed else p.elapsedBehind
          writtenBehind := p.writtenBehind ++ q.buffers.flatten
          status := 0 }
      | .branch test body otherwise =>
        let q := run bound { p with isTesting := true } test
        let q := { q with isTesting := p.isTesting }
        if q.isOver then q
        else if q.status = 0 then run bound q body
        else run bound (q.withStatus 0) otherwise
      | .loop onSuccess test body => turns bound (p.withStatus 0) onSuccess test body
      | .each name words body =>
        let (p, found) := match words with
          | some words => allWordsOf bound p words
          | none => (p, p.words.drop 1)
        (found.foldl (fun ((p : Process), (goesOn : Bool)) word =>
          if goesOn && !p.isOver then (run bound (p.set name word) body).afterTurn
          else (p, goesOn)) (p.withStatus 0, true)).1
      | .choice subject patterns body otherwise =>
        let (p, cs) := textOf bound p subject
        let (p, isFound) := patterns.foldl (fun ((p : Process), (isFound : Bool)) word =>
          let (p, pattern) := textOf bound p word
          (p, isFound || matchesPattern (String.ofList pattern) (String.ofList cs))) (p, false)
        run bound (p.withStatus 0) (if isFound then body else otherwise)
      | .apart command => (p.after (run bound p command)).checked
      | .redirected lineNumber command redirections =>
        let (inside, isWell) := redirectAll bound { p with lineNumber } redirections
        let q := if isWell then run bound inside command else inside
        { q with
          streams := p.streams
          input := if redirections.any (·.source = 0) then p.input else q.input }
      | .define name body => { p with functions := (name, body) :: p.functions, status := 0 }

end

end MutationTesting.Shell
