import MutationTesting.Proofs.Run.Dispatch
import MutationTesting.Run.Pool

/-!
# Every job gets its result

A dispatch is never stuck before it has returned, and it returns after a number of steps that the
jobs bound.  By then every job has one result, whatever order the workers were done in.  The
coordinator that carries out one job after the other follows one of these runs.
-/

namespace MutationTesting.Run

open Relation (ReflTransGen)

/-- How many steps of its own the coordinator can make before the next one for a job. -/
def Stage.stepsLeft : Stage → Nat
  | deciding => 2
  | starting => 1
  | waiting => 0
  | returned => 0

namespace Dispatch

variable {Job Result : Type}

/-- A bound on the steps that are left.  A job is started, finished and taken, and the coordinator
goes round its loop for it once. -/
def stepsLeft (d : Dispatch Job Result) : Nat :=
  5 * d.pending.length + 4 * d.active.length - d.finished.length + d.stage.stepsLeft

section Runs

variable {jobOf : Result → Job} {slots : Nat} {jobs : List Job}
variable {delivers : Nat → Job → Result → Prop}

theorem Step.stepsLeft_lt (hslots : 1 ≤ slots)
    (hdelivers : ∀ slot job result, delivers slot job result → jobOf result = job)
    {d next : Dispatch Job Result} (hstep : Step delivers d next)
    (hd : d.Consistent jobOf slots jobs) : next.stepsLeft < d.stepsLeft := by
  have hfinished := hd.length_finished_le
  have hnext := (hstep.consistent hslots hdelivers hd).length_finished_le
  cases hstep with
  | goOn _ | stop _ | wait _ => simp [stepsLeft, Stage.stepsLeft]
  | start =>
      simp only [stepsLeft, Stage.stepsLeft, List.length_append, List.length_cons,
        List.length_nil] at hfinished ⊢
      omega
  | @take c slot result finished =>
      have hmem : (slot, jobOf result) ∈ c.active := hd.finished_active (slot, result) (by simp)
      have hactive : c.active.length = _ := (perm_cons_filter_of_mem hd.active_nodup hmem).length_eq
      simp only [stepsLeft, Stage.stepsLeft, Coordinator.complete,
        List.length_cons] at hfinished hnext hactive ⊢
      omega
  | finish _ _ _ =>
      simp only [stepsLeft, List.length_append, List.length_singleton] at hnext ⊢
      omega

/-- A run of the dispatch makes at most five steps for each job, and two more. -/
theorem length_run_le (hslots : 1 ≤ slots)
    (hdelivers : ∀ slot job result, delivers slot job result → jobOf result = job)
    {run : Nat → Dispatch Job Result} {steps : Nat} (hstart : run 0 = initial slots jobs)
    (hrun : ∀ n < steps, Step delivers (run n) (run (n + 1))) : steps ≤ 5 * jobs.length + 2 := by
  have hleft : ∀ n ≤ steps, (run n).Consistent jobOf slots jobs ∧
      n + (run n).stepsLeft ≤ 5 * jobs.length + 2 := by
    intro n
    induction n with
    | zero =>
        intro _
        rw [hstart]
        exact ⟨consistent_initial jobOf slots jobs,
          by simp [initial, Coordinator.initial, stepsLeft, Stage.stepsLeft]⟩
    | succ n ih =>
        intro hn
        obtain ⟨hconsistent, hbound⟩ := ih (Nat.le_of_succ_le hn)
        have hstep := hrun n hn
        have hless := hstep.stepsLeft_lt hslots hdelivers hconsistent
        exact ⟨hstep.consistent hslots hdelivers hconsistent, by omega⟩
  have hend := (hleft steps (Nat.le_refl steps)).2
  omega

/-- As long as every worker can come to an end, a dispatch that has not returned can go on. -/
theorem exists_step (hgives : ∀ slot job, ∃ result, delivers slot job result)
    {d : Dispatch Job Result} (hd : d.Consistent jobOf slots jobs) (hstage : d.stage ≠ .returned) :
    ∃ next, Step delivers d next := by
  obtain ⟨c, finished, stage⟩ := d
  cases stage with
  | returned => exact absurd rfl hstage
  | deciding =>
      cases hdone : c.isDone with
      | true => exact ⟨_, .stop hdone⟩
      | false => exact ⟨_, .goOn hdone⟩
  | starting =>
      obtain ⟨pending, active, free, results⟩ := c
      cases pending with
      | nil => exact ⟨_, .wait (Or.inl rfl)⟩
      | cons job pending =>
          cases free with
          | nil => exact ⟨_, .wait (Or.inr rfl)⟩
          | cons slot free => exact ⟨_, .start⟩
  | waiting =>
      cases finished with
      | cons done finished => exact ⟨_, .take⟩
      | nil =>
          obtain ⟨⟨slot, job⟩, hactive⟩ := List.exists_mem_of_ne_nil _ (hd.waiting_active rfl)
          obtain ⟨result, hresult⟩ := hgives slot job
          exact ⟨_, .finish hactive (by simp) hresult⟩

/-- When a dispatch has returned, the results are about the jobs, each as often as it was given. -/
theorem results_perm_of_returned {d : Dispatch Job Result} (hd : d.Consistent jobOf slots jobs)
    (hstage : d.stage = .returned) : (d.results.map jobOf).Perm jobs := by
  have hdone := Coordinator.isDone_iff.mp (hd.returned_done hstage)
  simpa [hdone] using hd.jobs_shared

theorem results_eq_of_returned {d : Dispatch Job Result} (hd : d.Consistent jobOf slots jobs)
    (hstage : d.stage = .returned) (hone : slots = 1) : d.results.map jobOf = jobs := by
  have hdone := Coordinator.isDone_iff.mp (hd.returned_done hstage)
  simpa [hdone] using hd.in_order hone

/-- Starting all jobs that can be started is starting them one at a time. -/
theorem steps_assign (results : List Result) (finished : List (Nat × Result)) (pending : List Job)
    (free : List Nat) (active : List (Nat × Job)) :
    ReflTransGen (Step delivers) ⟨⟨pending, active, free, results⟩, finished, .starting⟩
      ⟨⟨(Coordinator.assign pending free).1, active ++ (Coordinator.assign pending free).2.1,
        (Coordinator.assign pending free).2.2, results⟩, finished, .starting⟩ := by
  induction pending generalizing free active with
  | nil => simpa [Coordinator.assign] using ReflTransGen.refl
  | cons job pending ih =>
      cases free with
      | nil => simpa [Coordinator.assign] using ReflTransGen.refl
      | cons slot free =>
          have hrest := ih free (active ++ [(slot, job)])
          rw [List.append_assoc] at hrest
          exact ReflTransGen.head .start hrest

theorem steps_launch (c : Coordinator Job Result) (finished : List (Nat × Result)) :
    ReflTransGen (Step delivers) ⟨c, finished, .starting⟩ ⟨c.launch, finished, .starting⟩ :=
  steps_assign c.results finished c.pending c.free c.active

theorem assign_exhausts (pending : List Job) (free : List Nat) :
    (Coordinator.assign pending free).1 = [] ∨ (Coordinator.assign pending free).2.2 = [] := by
  induction pending generalizing free with
  | nil => exact Or.inl rfl
  | cons job pending ih =>
      cases free with
      | nil => exact Or.inr rfl
      | cons slot free => exact ih free

theorem launch_of_isDone {c : Coordinator Job Result} (hdone : c.isDone = true) : c.launch = c := by
  obtain ⟨pending, active, free, results⟩ := c
  obtain ⟨rfl, rfl⟩ := Coordinator.isDone_iff.mp hdone
  rfl

/-- The job that is finished next is one at work. -/
theorem mem_active_of_next? {c : Coordinator Job Result} {choice : Nat} {next : Nat × Job}
    (hnext : c.next? choice = some next) : next ∈ c.active := by
  rw [Coordinator.next?, Option.or_eq_some_iff] at hnext
  rcases hnext with hchosen | ⟨_, hhead⟩
  · exact List.mem_of_getElem? hchosen
  · exact List.mem_of_head? hhead

theorem active_eq_nil_of_next? {c : Coordinator Job Result} {choice : Nat}
    (hnext : c.next? choice = none) : c.active = [] := by
  rw [Coordinator.next?, Option.or_eq_none_iff] at hnext
  exact List.head?_eq_none_iff.mp hnext.2

/-- The coordinator that carries out one job after the other makes steps of a dispatch, and gets
to the end.  What each job leaves behind may decide what the next one gives. -/
theorem steps_run_of_kept (hslots : 1 ≤ slots)
    (hdelivers : ∀ slot job result, delivers slot job result → jobOf result = job)
    {State : Type} {execute : State → Nat → Job → State × Result} (property : State → Prop)
    (hexecute : ∀ state slot job, property state →
      property (execute state slot job).1 ∧ delivers slot job (execute state slot job).2)
    (choose : Coordinator Job Result → Nat) (bound : Nat) (state : State)
    (hstate : property state) (c : Coordinator Job Result)
    (hc : Consistent jobOf slots jobs ⟨c, [], .deciding⟩)
    (hbound : jobs.length ≤ bound + c.results.length) :
    ReflTransGen (Step delivers) ⟨c, [], .deciding⟩
      ⟨(Coordinator.run execute choose bound state c).2, [], .returned⟩ := by
  induction bound generalizing state c with
  | zero =>
      have hlength := hc.jobs_shared.length_eq
      simp only [List.length_append, List.length_map] at hlength
      have hdone : c.isDone = true := by
        rw [Coordinator.isDone_iff, ← List.length_eq_zero_iff, ← List.length_eq_zero_iff]
        omega
      exact ReflTransGen.single (.stop hdone)
  | succ bound ih =>
      cases hdone : c.isDone with
      | true =>
          have hidle := (Coordinator.isDone_iff.mp hdone).2
          have hrun : (Coordinator.run execute choose (bound + 1) state c).2 = c := by
            simp [Coordinator.run, launch_of_isDone hdone, Coordinator.next?, hidle]
          rw [hrun]
          exact ReflTransGen.single (.stop hdone)
      | false =>
          have hwaiting : ReflTransGen (Step delivers) ⟨c, [], .deciding⟩
              ⟨c.launch, [], .waiting⟩ :=
            (ReflTransGen.head (.goOn hdone) (steps_launch c [])).tail
              (.wait (assign_exhausts c.pending c.free))
          have hconsistent := consistent_of_steps hslots hdelivers hwaiting hc
          cases hnext : c.launch.next? (choose c.launch) with
          | none =>
              exact absurd (active_eq_nil_of_next? hnext) (hconsistent.waiting_active rfl)
          | some next =>
              obtain ⟨slot, job⟩ := next
              obtain ⟨hkept, hresult⟩ := hexecute state slot job hstate
              have hactive := mem_active_of_next? hnext
              have htaken : ReflTransGen (Step delivers) ⟨c.launch, [], .waiting⟩
                  ⟨c.launch.complete slot (execute state slot job).2, [], .deciding⟩ :=
                (ReflTransGen.single (.finish hactive (by simp) hresult)).tail .take
              have hlater := ih (execute state slot job).1 hkept
                (c.launch.complete slot (execute state slot job).2)
                (consistent_of_steps hslots hdelivers htaken hconsistent)
                (by simpa [Coordinator.complete, Coordinator.launch, Nat.add_comm,
                  Nat.add_left_comm] using hbound)
              simp only [Coordinator.run, hnext]
              exact (hwaiting.trans htaken).trans hlater

theorem steps_run (hslots : 1 ≤ slots)
    (hdelivers : ∀ slot job result, delivers slot job result → jobOf result = job)
    {State : Type} {execute : State → Nat → Job → State × Result}
    (hexecute : ∀ state slot job, delivers slot job (execute state slot job).2)
    (choose : Coordinator Job Result → Nat) (bound : Nat) (state : State)
    (c : Coordinator Job Result) (hc : Consistent jobOf slots jobs ⟨c, [], .deciding⟩)
    (hbound : jobs.length ≤ bound + c.results.length) :
    ReflTransGen (Step delivers) ⟨c, [], .deciding⟩
      ⟨(Coordinator.run execute choose bound state c).2, [], .returned⟩ :=
  steps_run_of_kept hslots hdelivers (fun _ => True)
    (fun state slot job _ => ⟨trivial, hexecute state slot job⟩) choose bound state trivial c hc
    hbound

end Runs

end Dispatch

/-- The job that a result is about. -/
def JobResult.job (r : JobResult) : Job := ⟨r.place, r.result.mutation⟩

theorem mutation_failed (m : Mutation) (crash : Testing.Crash) :
    (failed m crash).mutation = m := rfl

theorem mutation_notPatched (m : Mutation) (e : PatchError) : (notPatched m e).mutation = m := by
  rcases e with (_ | _ | _) | _ <;> rfl

theorem mutation_judged (m : Mutation) (outcome : Except Testing.RunFailure Nat) :
    (judged m outcome).mutation = m := by
  rcases outcome with (_ | _ | _) | _ <;> rfl

/-- However a mutant fares, its result is that of one that could not be put in place, that failed or
that was judged by its tests. -/
theorem runMutant_cases (a : Assignment) (w : Workshop) (m : Mutation) (p : Placement) :
    (∃ e, (runMutant a w m p).2 = notPatched m e) ∨
      (∃ crash, (runMutant a w m p).2 = failed m crash) ∨
        ∃ outcome, (runMutant a w m p).2 = judged m outcome := by
  unfold runMutant
  split
  · exact Or.inl ⟨_, rfl⟩
  · dsimp only
    split
    · exact Or.inr (Or.inl ⟨_, rfl⟩)
    · dsimp only
      split
      · exact Or.inr (Or.inr ⟨_, rfl⟩)
      · exact Or.inr (Or.inl ⟨_, rfl⟩)

theorem mutation_runMutant (a : Assignment) (w : Workshop) (m : Mutation) (p : Placement) :
    (runMutant a w m p).2.mutation = m := by
  rcases runMutant_cases a w m p with ⟨e, h⟩ | ⟨crash, h⟩ | ⟨outcome, h⟩ <;> rw [h]
  · exact mutation_notPatched m e
  · exact mutation_failed m crash
  · exact mutation_judged m outcome

theorem job_execute (a : Assignment) (w : Workshop) (slot : Nat) (job : Job) :
    (execute a w slot job).2.job = job := by
  unfold execute
  dsimp only
  split
  · rfl
  · simp [JobResult.job, mutation_runMutant]

/-- The result of a job whose worker was made to end. -/
def aborted (job : Job) : JobResult :=
  ⟨job.place, ⟨job.mutation, .error, some "worker aborted"⟩⟩

/-- The results that a worker of a pool may give for a job in a slot.  Other workers may have left
the files in any state. -/
def Assignment.Delivers (a : Assignment) (slot : Nat) (job : Job) (result : JobResult) : Prop :=
  (∃ w, (execute a w slot job).2 = result) ∨ result = aborted job

theorem job_of_delivers {a : Assignment} {slot : Nat} {job : Job} {result : JobResult}
    (hresult : a.Delivers slot job result) : result.job = job := by
  rcases hresult with ⟨w, rfl⟩ | rfl
  · exact job_execute a w slot job
  · rfl

/-- A pool gives every job exactly one result, in whatever order its workers are done.  At any moment
every slot is free or at work on one job, every job is waiting, at work or done, and the coordinator
waits for a result only while there is a worker to give one.  It is never stuck and it comes to an
end. -/
theorem pool_gives_every_job_one_result (a : Assignment) (hworkers : 1 ≤ a.options.workers)
    (jobs : List Job) :
    (∀ d, Dispatch.Reachable a.Delivers a.options.workers jobs d →
      (d.free ++ d.active.map Prod.fst).Perm (List.range a.options.workers) ∧
        (d.active.map Prod.fst).Nodup ∧ d.active.length ≤ a.options.workers ∧
        (d.results.map JobResult.job ++ d.active.map Prod.snd ++ d.pending).Perm jobs ∧
        (d.stage = .waiting → d.active ≠ []) ∧
        (d.stage ≠ .returned → ∃ next, Dispatch.Step a.Delivers d next) ∧
        (d.stage = .returned → (d.results.map JobResult.job).Perm jobs ∧
          (a.options.workers = 1 → d.results.map JobResult.job = jobs))) ∧
      (∀ (run : Nat → Dispatch Job JobResult) (steps : Nat),
        run 0 = Dispatch.initial a.options.workers jobs →
          (∀ n < steps, Dispatch.Step a.Delivers (run n) (run (n + 1))) →
            steps ≤ 5 * jobs.length + 2) ∧
      ∀ (choose : Coordinator Job JobResult → Nat) (w : Workshop),
        ∃ d, Dispatch.Reachable a.Delivers a.options.workers jobs d ∧ d.stage = .returned ∧
          d.results = (Coordinator.runAll (execute a) choose a.options.workers w jobs).2 := by
  have hdelivers : ∀ slot job result, a.Delivers slot job result → result.job = job :=
    fun _ _ _ => job_of_delivers
  have hgives : ∀ slot job, ∃ result, a.Delivers slot job result :=
    fun _ job => ⟨aborted job, Or.inr rfl⟩
  refine ⟨?_, ?_, ?_⟩
  · intro d hreachable
    have hd := hreachable.consistent hworkers hdelivers
    exact ⟨hd.slots_shared, hd.active_nodup, hd.length_active_le, hd.jobs_shared,
      hd.waiting_active, Dispatch.exists_step hgives hd,
      fun hstage => ⟨Dispatch.results_perm_of_returned hd hstage,
        Dispatch.results_eq_of_returned hd hstage⟩⟩
  · intro run steps hstart hrun
    exact Dispatch.length_run_le hworkers hdelivers hstart hrun
  · intro choose w
    have hsteps := Dispatch.steps_run hworkers hdelivers (fun state _ _ => Or.inl ⟨state, rfl⟩)
      choose jobs.length w (Coordinator.initial a.options.workers jobs)
      (Dispatch.consistent_initial JobResult.job a.options.workers jobs) (Nat.le_refl _)
    exact ⟨_, hsteps, rfl, rfl⟩

/-- A pool of two workers on an empty program. -/
def pairOfWorkers : Assignment where
  options := ⟨2, .whole 5, {}, .lock, true⟩
  source := ⟨"m.py", .node .module 0 [.list []], none, ""⟩
  runner := fun _ _ => .ok 0
  environment := []
  dependencies := {}
  moduleOf := fun _ => none
  fallbackTests := []

/-- Three jobs, of which the first and the last are about the same mutation. -/
def repeatedJobs : List Job :=
  let removal (line : Int) : Mutation := ⟨"Literal", .absent, .absent, "", "m.py", line⟩
  [⟨0, removal 1⟩, ⟨1, removal 2⟩, ⟨2, removal 1⟩]

/-- The pair of workers is done with the jobs in another order than they were given. -/
theorem pair_of_workers_gives_every_job_one_result :
    1 ≤ pairOfWorkers.options.workers ∧
      ∃ d : Dispatch Job JobResult,
        Dispatch.Reachable pairOfWorkers.Delivers pairOfWorkers.options.workers repeatedJobs d ∧
          d.stage = .returned ∧ d.results.map JobResult.job ≠ repeatedJobs ∧
          (d.results.map JobResult.job).Perm repeatedJobs := by
  have hworkers : 1 ≤ pairOfWorkers.options.workers := by decide
  obtain ⟨hreachable, _, hrun⟩ :=
    pool_gives_every_job_one_result pairOfWorkers hworkers repeatedJobs
  obtain ⟨d, hd, hstage, hresults⟩ := hrun (fun c => c.active.length - 1) ⟨⟨⟨[]⟩, "/"⟩, [], []⟩
  have hreordered : d.results.map JobResult.job ≠ repeatedJobs := by
    rw [hresults]
    decide +kernel
  obtain ⟨_, _, _, _, _, _, hreturned⟩ := hreachable d hd
  exact ⟨hworkers, d, hd, hstage, hreordered, (hreturned hstage).1⟩

end MutationTesting.Run
