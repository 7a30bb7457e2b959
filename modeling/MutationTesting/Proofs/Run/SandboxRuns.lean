import MutationTesting.Proofs.Run.PatchedBlock
import MutationTesting.Proofs.Run.Sandboxes

/-!
# The workers of a pool with sandboxes

A pool carries out its jobs by the steps of workers in their slots.  So whatever holds at every
moment of such workers holds whenever the pool has tests run, and when it is done.
-/

namespace MutationTesting.Run

open MutationTesting.Files
open MutationTesting.Testing
open Relation (ReflTransGen)

namespace Coordinator

variable {State Job Result : Type} {execute : State → Nat → Job → State × Result}

theorem mem_of_mem_assign {jobs : List Job} {slots : List Nat} :
    (∀ job ∈ (assign jobs slots).1, job ∈ jobs) ∧
      ∀ started ∈ (assign jobs slots).2.1, started.2 ∈ jobs := by
  induction jobs generalizing slots with
  | nil => simp [assign]
  | cons job jobs ih =>
      cases slots with
      | nil => simp [assign]
      | cons slot slots =>
          obtain ⟨hwaiting, hstarted⟩ := @ih slots
          refine ⟨fun other hother => List.mem_cons_of_mem job (hwaiting other hother), ?_⟩
          intro started hmem
          rcases List.mem_cons.mp hmem with rfl | hmem
          · exact List.mem_cons_self
          · exact List.mem_cons_of_mem job (hstarted started hmem)

/-- What carrying out each job keeps, running all of them keeps. -/
theorem run_induction (property : State → Prop) (given : Job → Prop)
    (choose : Coordinator Job Result → Nat)
    (hexecute : ∀ state slot job, given job → property state → property (execute state slot job).1)
    {bound : Nat} {state : State} {c : Coordinator Job Result} (hstate : property state)
    (hpending : ∀ job ∈ c.pending, given job) (hactive : ∀ started ∈ c.active, given started.2) :
    property (run execute choose bound state c).1 := by
  induction bound generalizing state c with
  | zero => exact hstate
  | succ bound ih =>
      have hwaiting : ∀ job ∈ c.launch.pending, given job :=
        fun job hjob => hpending job (mem_of_mem_assign.1 job hjob)
      have hstarted : ∀ started ∈ c.launch.active, given started.2 := by
        intro started hmem
        rcases List.mem_append.mp hmem with hmem | hmem
        · exact hactive started hmem
        · exact hpending _ (mem_of_mem_assign.2 started hmem)
      rw [run]
      cases hnext : c.launch.next? (choose c.launch) with
      | none => exact hstate
      | some chosen =>
          obtain ⟨slot, job⟩ := chosen
          have hmem : (slot, job) ∈ c.launch.active := by
            rw [next?] at hnext
            rcases Option.or_eq_some_iff.mp hnext with hplace | ⟨-, hhead⟩
            · exact List.mem_of_getElem? hplace
            · exact List.mem_of_head? hhead
          exact ih (hexecute state slot job (hstarted _ hmem) hstate) hwaiting
            fun started hleft => hstarted started (List.mem_of_mem_filter hleft)

end Coordinator

section Workers

variable (a : Assignment) (w : Workshop) (m : Mutation) (p : Placement)

/-- A worker at its placement does to the files what the pool does with the mutant. -/
theorem runMutant_placedAt (request : TestRun) :
    (runMutant (a.placedAt p) w m ⟨p.target, request⟩).1.files = (runMutant a w m p).1.files ∧
      (runMutant (a.placedAt p) w m ⟨p.target, request⟩).2 = (runMutant a w m p).2 := by
  have henter : Patch.enter w.files m (a.placedAt p).source p.target
      (a.placedAt p).options.strict =
        Patch.enter w.files m a.source p.target a.options.strict := rfl
  rw [runMutant, runMutant, henter]
  cases Patch.enter w.files m a.source p.target a.options.strict with
  | error e => exact ⟨rfl, rfl⟩
  | ok entered =>
      obtain ⟨inside, patch⟩ := entered
      dsimp only
      cases (invalidateCompiled inside patch.target).failure with
      | some e => exact ⟨rfl, rfl⟩
      | none => exact ⟨rfl, rfl⟩

theorem iterate_work_worker :
    (a.worker m p).work^[8] (w.files, .entered) =
      ((runMutant a w m p).1.files, .ended (runMutant a w m p).2) := by
  obtain ⟨hfiles, hresult⟩ := runMutant_placedAt a w m p (a.worker m p).request
  rw [← hfiles, ← hresult]
  exact (a.worker m p).iterate_work_entered w

theorem sandboxes_runMutant : (runMutant a w m p).1.sandboxes = w.sandboxes := by
  rw [runMutant]
  cases Patch.enter w.files m a.source p.target a.options.strict with
  | error e => rfl
  | ok entered =>
      obtain ⟨inside, patch⟩ := entered
      dsimp only
      cases (invalidateCompiled inside patch.target).failure <;> rfl

/-- When the pool has tests run, the worker is at that point. -/
theorem exists_iterate_work_of_mem_observations {o : Observation}
    (ho : o ∈ (runMutant a w m p).1.observations) :
    o ∈ w.observations ∨ ∃ kept, o.request = p.request ∧
      (a.worker m p).work^[4] (w.files, .entered) = (o.files, .testing kept) := by
  rw [runMutant] at ho
  cases henter : Patch.enter w.files m a.source p.target a.options.strict with
  | error e =>
      rw [henter] at ho
      exact Or.inl ho
  | ok entered =>
      obtain ⟨inside, patch⟩ := entered
      obtain ⟨mutant, original, saved, hmutant, hread, hsaved, hpatched, rfl⟩ :=
        Patch.enter_eq_ok_iff.mp henter
      rw [henter] at ho
      dsimp only at ho
      cases hfailure : (invalidateCompiled inside p.target).failure with
      | some e =>
          rw [hfailure] at ho
          exact Or.inl ho
      | none =>
          rw [hfailure] at ho
          rcases List.mem_append.mp ho with hbefore | hnow
          · exact Or.inl hbefore
          · rw [List.mem_singleton] at hnow
            subst hnow
            refine Or.inr ⟨original, rfl, ?_⟩
            have hrender : (a.worker m p).mutant = .ok mutant := hmutant
            have hpath : (a.worker m p).path = p.target := rfl
            rw [Function.iterate_succ_apply, SharedTask.work, SharedTask.advance, SharedTask.load,
              hrender, hpath, hread]
            dsimp only
            rw [Function.iterate_succ_apply, SharedTask.work, SharedTask.advance, SharedTask.save,
              hpath, hsaved]
            dsimp only
            rw [Function.iterate_succ_apply, SharedTask.work, SharedTask.advance, SharedTask.patch,
              hpath, hpatched]
            dsimp only
            rw [Function.iterate_one, SharedTask.work, SharedTask.advance, SharedTask.prepare,
              hpath, hfailure]

end Workers

namespace Yard

variable {a : Assignment} {start : FileSystem} {y : Yard} {slot : Nat} {m : Mutation}
variable {p : Placement} {phase : Phase}

/-- A worker in its slot can make any number of steps. -/
theorem Reachable.work (hreachable : Reachable a start y)
    (hoccupied : y.occupant slot = some ⟨m, p, phase⟩) (count : Nat) :
    Reachable a start
      ⟨((a.worker m p).work^[count] (y.files, phase)).1, y.sandboxes,
        Function.update y.occupant slot
          (some ⟨m, p, ((a.worker m p).work^[count] (y.files, phase)).2⟩)⟩ := by
  induction count with
  | zero =>
      rw [Function.iterate_zero, id, ← hoccupied, Function.update_eq_self]
      exact hreachable
  | succ count ih =>
      rw [Function.iterate_succ_apply']
      have hstep := ReflTransGen.tail ih
        (.advance ((a.worker m p).assignment.runner
          ((a.worker m p).work^[count] (y.files, phase)).1 (a.worker m p).request)
          (Function.update_self slot _ y.occupant))
      rw [Function.update_idem] at hstep
      exact hstep

/-- A slot with a worker and no other worker anywhere. -/
def alone (slot : Nat) (o : Occupant) : Nat → Option Occupant :=
  Function.update (fun _ => none) slot (some o)

theorem alone_self (slot : Nat) (o : Occupant) : alone slot o slot = some o :=
  Function.update_self ..

/-- A pool between two jobs. -/
def idle (w : Workshop) : Yard := ⟨w.files, w.sandboxes, fun _ => none⟩

/-- A worker that runs alone gets to any of its steps. -/
theorem Reachable.run {w w' : Workshop} (hreachable : Reachable a start (idle w))
    (hplaced : placementOf a w slot (a.testsFor m) = .ok (w', p)) (count : Nat) :
    Reachable a start
      ⟨((a.worker m p).work^[count] (w'.files, .entered)).1, w'.sandboxes,
        alone slot ⟨m, p, ((a.worker m p).work^[count] (w'.files, .entered)).2⟩⟩ := by
  have hentered : Reachable a start ⟨w'.files, w'.sandboxes, alone slot ⟨m, p, .entered⟩⟩ :=
    hreachable.tail (.place (y := idle w) rfl hplaced)
  have hworked := hentered.work (alone_self slot ⟨m, p, .entered⟩) count
  dsimp only at hworked
  rw [alone, Function.update_idem] at hworked
  exact hworked

end Yard

/-- A pool in the middle of its jobs is one of workers in slots, and whenever it had tests run, one
of these workers had its mutant in place. -/
structure Traced (a : Assignment) (start : FileSystem) (jobs : List Job) (w : Workshop) : Prop where
  reachable : Yard.Reachable a start (Yard.idle w)
  observed : ∀ o ∈ w.observations, ∃ y slot p kept, ∃ job ∈ jobs, Yard.Reachable a start y ∧
    y.occupant slot = some ⟨job.mutation, p, .testing kept⟩ ∧ o = ⟨p.request, y.files⟩

section Traces

variable {a : Assignment} {start : FileSystem} {jobs : List Job} {w : Workshop}

theorem traced_initial : Traced a start jobs ⟨start, [], []⟩ :=
  ⟨ReflTransGen.refl, by simp⟩

theorem observations_of_placementOf (hsandbox : a.options.isolation = .sandbox) {slot : Nat}
    {tests : List Path} {w' : Workshop} {p : Placement}
    (hplaced : placementOf a w slot tests = .ok (w', p)) : w'.observations = w.observations := by
  simp only [placementOf, hsandbox] at hplaced
  obtain ⟨⟨made, copy⟩, hmade, hrest⟩ := bind_eq_ok_iff.mp hplaced
  simp only [pure, Except.pure, Except.ok.injEq, Prod.mk.injEq] at hrest
  obtain ⟨rfl, rfl⟩ := hrest
  rcases sandboxOf_eq_ok hmade with ⟨rfl, -⟩ | ⟨-, -, source, -, rfl⟩ <;> rfl

/-- Carrying out a job takes the steps of a worker from start to end. -/
theorem Traced.execute (hsandbox : a.options.isolation = .sandbox) (hw : Traced a start jobs w)
    (slot : Nat) {job : Job} (hjob : job ∈ jobs) :
    Traced a start jobs (execute a w slot job).1 := by
  rw [Run.execute]
  dsimp only
  cases hplaced : placementOf a w slot (a.testsFor job.mutation) with
  | error e => exact hw
  | ok placed =>
      obtain ⟨w', p⟩ := placed
      have hended := hw.reachable.run hplaced 8
      rw [iterate_work_worker] at hended
      have hfinished := hended.tail (.finish (Yard.alone_self slot
        ⟨job.mutation, p, .ended (runMutant a w' job.mutation p).2⟩))
      dsimp only at hfinished
      rw [Yard.alone, Function.update_idem, Function.update_eq_self_iff.mpr rfl] at hfinished
      refine ⟨?_, fun o ho => ?_⟩
      · rw [Yard.idle, sandboxes_runMutant]
        exact hfinished
      · rcases exists_iterate_work_of_mem_observations a w' job.mutation p ho with hbefore | hnow
        · rw [observations_of_placementOf hsandbox hplaced] at hbefore
          exact hw.observed o hbefore
        · obtain ⟨kept, hrequest, hwork⟩ := hnow
          have htesting := hw.reachable.run hplaced 4
          rw [hwork] at htesting
          exact ⟨_, slot, p, kept, job, hjob, htesting, Yard.alone_self .., by rw [← hrequest]⟩

/-- A pool takes the steps of workers in slots. -/
theorem exists_traced_runJobs (hsandbox : a.options.isolation = .sandbox) (start : FileSystem)
    (jobs : List Job) :
    ∃ w, Traced a start jobs w ∧ (runJobs a start jobs).observations = w.observations ∧
      (runJobs a start jobs).files = withoutCopies w.files w.sandboxes := by
  refine ⟨_, ?_, rfl, rfl⟩
  exact Coordinator.run_induction (Traced a start jobs) (· ∈ jobs) (fun _ => 0)
    (fun w slot job hjob hw => hw.execute hsandbox slot hjob) traced_initial (fun _ => id)
    (by simp [Coordinator.initial])

end Traces

end MutationTesting.Run
