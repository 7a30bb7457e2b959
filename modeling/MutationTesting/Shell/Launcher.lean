import MutationTesting.Shell.Execution
import MutationTesting.Testing.Process

/-!
# A launcher for simple commands

The launcher carries out a few commands that every system has, with a small shell among them, while
it sees the files as they are.  So a run of tests can be tried out without a process.
-/

namespace MutationTesting.Shell

open MutationTesting.Files
open MutationTesting.Testing

/-- How many steps a process may take. -/
def maxSteps : Nat := 20000

/-- The end of a process that has carried out everything. -/
def Process.outcome (p : Process) : ProcessEnd :=
  let q := p.join
  let output := (q.buffers.head?).getD []
  match p.halt, q.halt with
  | some (.exited _), some .stopped => .stopped output
  | some (.exited status), _ => .exited output status
  | _, some .stopped => .stopped output
  | _, some (.killed signal) => .exited output (-(signal : Int))
  | _, _ => .exited output q.status

/-- The file system as it is seen from the directory to start in. -/
def enter (fs : FileSystem) : Option Path → Except StartError FileSystem
  | none => .ok fs
  | some "" => .error (.ofFile .notFound "")
  | some directory =>
    match fs.store.locate true fs.directory directory with
    | .ok (_, some .directory) => .ok { fs with directory := fs.absolute directory }
    | .ok (_, none) => .error (.ofFile .notFound directory)
    | .ok _ => .error (.ofFile .notDirectory directory)
    | .error e => .error (.ofFile e directory)

/-- The error of a command that names no known program. -/
def startError (fs : FileSystem) (name : String) : StartError :=
  if !name.toList.contains '/' then .ofFile .notFound name
  else
    match fs.store.locate true fs.directory name with
    | .ok (_, some _) => .notPermitted name
    | .ok (_, none) => .ofFile .notFound name
    | .error e => .ofFile e name

/-- A process that has done nothing yet. -/
def newProcess (fs : FileSystem) (launch : Launch) (name : String) : Process :=
  let known := launch.environment.set "PWD" (fs.realPath fs.directory)
  { files := fs, environment := known, exported := known.map (·.1), words := [name]
    deadline := launch.deadline.toBinary64 }

/-- Starts a simple command.  Without any time it ends before it has written anything. -/
def launcher : Launcher := fun fs launch =>
  match enter fs launch.directory with
  | .error e => .notStarted e
  | .ok inside =>
    match launch.command with
    | [] => .notStarted (.ofFile .notFound "")
    | name :: words =>
      let p := newProcess inside launch name
      let finished? :=
        if programName name = "sh" then some (shell maxSteps p words)
        else program? p (programName name) words
      match finished? with
      | none => .notStarted (startError inside name)
      | some finished => if launch.deadline.isAtMostZero then .stopped [] else finished.outcome

end MutationTesting.Shell
