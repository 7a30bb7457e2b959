/-!
# Sharing work among slots

A coordinator hands jobs to a fixed number of slots.  It starts jobs while there are free slots,
then waits for one to be finished, and so on until no job is left.  Which active job is finished
next is not up to the coordinator: it is told by a function of its state.
-/

namespace MutationTesting.Run

/-- Jobs that wait, jobs at work with their slots, free slots, and results in order of
completion. -/
structure Coordinator (Job Result : Type) where
  pending : List Job
  active : List (Nat × Job)
  free : List Nat
  results : List Result
deriving Repr

namespace Coordinator

variable {Job Result : Type}

/-- The coordinator before any job was started. -/
def initial (slots : Nat) (jobs : List Job) : Coordinator Job Result :=
  ⟨jobs, [], List.range slots, []⟩

/-- Starts the next job on the next free slot, as long as there are both. -/
def assign : List Job → List Nat → List Job × List (Nat × Job) × List Nat
  | job :: jobs, slot :: slots =>
    let (waiting, started, free) := assign jobs slots
    (waiting, (slot, job) :: started, free)
  | jobs, slots => (jobs, [], slots)

/-- The coordinator after all jobs were started that can be. -/
def launch (c : Coordinator Job Result) : Coordinator Job Result :=
  let (waiting, started, free) := assign c.pending c.free
  { c with pending := waiting, active := c.active ++ started, free := free }

/-- The coordinator after a slot has given its result. -/
def complete (c : Coordinator Job Result) (slot : Nat) (result : Result) :
    Coordinator Job Result :=
  { c with
    active := c.active.filter fun a => !decide (a.1 = slot)
    free := c.free ++ [slot]
    results := c.results ++ [result] }

def isDone (c : Coordinator Job Result) : Bool := c.pending.isEmpty && c.active.isEmpty

/-- The active job that is finished next: the one chosen, or the first if there is none at the
chosen place. -/
def next? (c : Coordinator Job Result) (choice : Nat) : Option (Nat × Job) :=
  c.active[choice]?.or c.active.head?

/-- Runs at most `bound` jobs to their end.  A job is carried out in a state, with its slot. -/
def run {State : Type} (execute : State → Nat → Job → State × Result)
    (choose : Coordinator Job Result → Nat) :
    Nat → State → Coordinator Job Result → State × Coordinator Job Result
  | 0, state, c => (state, c)
  | bound + 1, state, c =>
    let c := c.launch
    match c.next? (choose c) with
    | none => (state, c)
    | some (slot, job) =>
      let (state, result) := execute state slot job
      run execute choose bound state (c.complete slot result)

/-- Runs all jobs to their end on a number of slots. -/
def runAll {State : Type} (execute : State → Nat → Job → State × Result)
    (choose : Coordinator Job Result → Nat) (slots : Nat) (state : State) (jobs : List Job) :
    State × List Result :=
  let (state, c) := run execute choose jobs.length state (initial slots jobs)
  (state, c.results)

end Coordinator

end MutationTesting.Run
