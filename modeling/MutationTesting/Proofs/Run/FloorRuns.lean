import MutationTesting.Proofs.Run.Floor
import MutationTesting.Proofs.Run.IsolationAgreement

/-!
# What a pool gives for its jobs

A pool that carries out one job after the other takes the steps of the workers of all slots, one
worker at a time.  So whatever such workers give, in any order of their steps, it gives too.
-/

namespace MutationTesting.Run

open MutationTesting.Files
open MutationTesting.Testing
open Relation (ReflTransGen)

/-- What goes wrong with the files for a mutation that is the first to be tried. -/
def Assignment.obstacle (a : Assignment) (start : FileSystem) (m : Mutation) : Option FileError :=
  match placementOf a ⟨start, [], []⟩ 0 (a.testsFor m) with
  | .error e => some e
  | .ok (w, p) => Patch.obstacle w.files m a.source p.target a.options.strict

/-- The result of a job if the runner has an answer to its tests and the content of the file. -/
def Assignment.settled (a : Assignment) (start : FileSystem)
    (answer : List Path → Bytes → Except RunFailure Nat) (job : Job) : JobResult :=
  let m := job.mutation
  ⟨job.place,
    match m.render a.source a.options.strict with
    | .error e => notPatched m (.mutant e)
    | .ok mutant =>
      match a.obstacle start m with
      | some e => failed m (.file e)
      | none => judged m (answer (a.testsFor m) (encoded mutant))⟩

theorem Assignment.job_settled (a : Assignment) (start : FileSystem)
    (answer : List Path → Bytes → Except RunFailure Nat) (job : Job) :
    (a.settled start answer job).job = job := by
  obtain ⟨place, m⟩ := job
  rw [settled, JobResult.job]
  cases m.render a.source a.options.strict with
  | error e => simp [mutation_notPatched]
  | ok mutant => cases a.obstacle start m <;> simp [mutation_failed, mutation_judged]

namespace Floor

section Pools

variable {a : Assignment} {start : FileSystem}
variable {responds : FileSystem → TestRun → Except RunFailure Nat → Prop} {y : Floor}
variable {slot : Nat} {m : Mutation} {p : Placement} {guard : Option Address}

/-- A pool between two jobs. -/
def idle (w : Workshop) : Floor := ⟨w.files, w.sandboxes, fun _ => none, fun _ => none⟩

/-- A slot with a worker and no other worker anywhere. -/
def alone (slot : Nat) (t : Turn) : Nat → Option Turn :=
  Function.update (fun _ => none) slot (some t)

theorem alone_self (slot : Nat) (t : Turn) : alone slot t slot = some t :=
  Function.update_self ..

/-- A lock that is given back is free. -/
theorem handOver_handOver (guard : Option Address) (slot : Nat) :
    handOver (handOver (fun _ => none) guard (some slot)) guard none = fun _ => none := by
  cases guard with
  | none => rfl
  | some lock => rw [handOver, handOver, Function.update_idem, Function.update_eq_self_iff.mpr rfl]

variable (hruns : ∀ fs request, responds fs request (a.runner fs request))

include hruns

/-- A worker that has its lock can make any number of steps. -/
theorem Reachable.work (hreachable : Reachable a start responds y)
    {calls : List (Except RunFailure Nat)} {phase : Phase}
    (hinside : y.turn slot = some ⟨m, p, guard, calls, some phase⟩) (count : Nat) :
    ∃ calls', Reachable a start responds
      { y with
        files := ((a.worker m p).work^[count] (y.files, phase)).1
        turn := Function.update y.turn slot (some ⟨m, p, guard, calls',
          some ((a.worker m p).work^[count] (y.files, phase)).2⟩) } := by
  induction count with
  | zero =>
      refine ⟨calls, ?_⟩
      rw [Function.iterate_zero, id, ← hinside, Function.update_eq_self]
      exact hreachable
  | succ count ih =>
      obtain ⟨calls', hworked⟩ := ih
      rw [Function.iterate_succ_apply']
      have hstep := ReflTransGen.tail hworked
        (.advance (Function.update_self slot _ y.turn) fun _ _ => hruns _ p.request)
      rw [Function.update_idem] at hstep
      exact ⟨_, hstep⟩

theorem Reachable.execute {w : Workshop} (hreachable : Reachable a start responds (idle w))
    (slot : Nat) (job : Job) :
    Reachable a start responds (idle (execute a w slot job).1) ∧
      ∃ calls, Gives a start responds slot job calls (execute a w slot job).2 := by
  rw [Run.execute]
  dsimp only
  cases hplaced : placementOf a w slot (a.testsFor job.mutation) with
  | error e => exact ⟨hreachable, [], .refused (y := idle w) hreachable rfl hplaced⟩
  | ok placed =>
      obtain ⟨w', p⟩ := placed
      have hentered : Reachable a start responds
          ⟨w'.files, w'.sandboxes, handOver (fun _ => none) (a.guard w.files) (some slot),
            alone slot ⟨job.mutation, p, a.guard w.files, [], some .entered⟩⟩ := by
        have hplacing := hreachable.tail (.place (y := idle w) rfl hplaced)
        have hstep := hplacing.tail (.enter (alone_self slot _) fun _ _ => rfl)
        dsimp only [idle] at hstep
        rwa [Function.update_idem] at hstep
      obtain ⟨calls, hended⟩ := hentered.work hruns (alone_self slot _) 8
      dsimp only at hended
      rw [iterate_work_worker, alone, Function.update_idem] at hended
      refine ⟨?_, calls, .ended hended (alone_self slot _)⟩
      have hfinished := hended.tail (.finish (alone_self slot _))
      dsimp only at hfinished
      rw [Function.update_idem, Function.update_eq_self_iff.mpr rfl, handOver_handOver] at hfinished
      rw [idle, sandboxes_runMutant]
      exact hfinished

end Pools

section Decisions

variable (a : Assignment) (start : FileSystem)
variable (responds : FileSystem → TestRun → Except RunFailure Nat → Prop) (h : Hindrances)

/-- The results that workers may give for a job in a slot. -/
def Delivers (slot : Nat) (job : Job) (result : JobResult) : Prop :=
  ∃ calls, Gives a start responds slot job calls result

/-- The results that a pool may return for some jobs. -/
def Returns (jobs : List Job) (results : List JobResult) : Prop :=
  ∃ d, Dispatch.Reachable (Delivers a start responds) a.options.workers jobs d ∧
    d.stage = .returned ∧ d.results = results

/-- Workers that decide on each job by its mutation alone. -/
structure Decides : Prop where
  verdict : ∀ slot job calls result, Gives a start responds slot job calls result →
    ∃ p r, result = ⟨job.place, r⟩ ∧
      Verdict (a.worker job.mutation p) h (Hears a start responds job.mutation p) calls r
  obstacle : ∀ m mutant, m.render a.source a.options.strict = .ok mutant →
    a.obstacle start m = h.first
  unwritten : ∀ y, Reachable a start responds y → ∀ slot t phase, y.turn slot = some t →
    t.phase = some phase → ∀ e, t.mutation.render a.source a.options.strict = .error e →
      ∀ outcome, ((a.worker t.mutation t.placement).advance outcome y.files phase).1 = y.files

variable {a start responds h}

theorem Turn.Sound.unwritten {Holds : FileSystem → Bytes → Prop} {original : Bytes}
    {fs : FileSystem} {t : Turn} (hsound : Turn.Sound a start responds h Holds original fs t)
    {phase : Phase} (hphase : t.phase = some phase) {e : MutantError}
    (hmutant : t.mutation.render a.source a.options.strict = .error e)
    (outcome : Except RunFailure Nat) :
    ((a.worker t.mutation t.placement).advance outcome fs phase).1 = fs := by
  obtain ⟨content, -, htells⟩ := hsound.told phase hphase
  exact htells.files_advance hmutant outcome fs

theorem Shared.decides {Holds : FileSystem → Bytes → Prop} {file : Address} {original : Bytes}
    (hshared : Shared a start h Holds file original) : Decides a start responds h where
  verdict := by
    rintro slot job calls result (⟨hreachable, hended⟩ | ⟨hreachable, -, hrefused⟩)
    · obtain ⟨-, -, hsound⟩ := (hshared.takesTurns hreachable).turn slot _ hended
      exact ⟨_, _, rfl, hsound.verdict⟩
    · obtain ⟨content, hheld, -⟩ := (hshared.takesTurns hreachable).held
      obtain ⟨w, p, hplaced, -⟩ := hshared.placed ⟨_, _, _⟩ slot _ content hheld
      cases hrefused.symm.trans hplaced
  obstacle := by
    intro m mutant hmutant
    obtain ⟨w, p, hplaced, htarget, hholds⟩ :=
      hshared.placed ⟨start, [], []⟩ 0 (a.testsFor m) original hshared.start
    rw [Assignment.obstacle, hplaced]
    dsimp only
    rw [htarget]
    exact hshared.work.obstacle_eq hholds hmutant
  unwritten := by
    intro y hreachable slot t phase ht hphase e hmutant outcome
    obtain ⟨-, -, hsound⟩ := (hshared.takesTurns hreachable).turn slot t ht
    exact Turn.Sound.unwritten hsound hphase hmutant outcome

theorem Separate.decides {root : Address} {dirs : List String} {last : String} {original : Bytes}
    {Holds : Nat → FileSystem → Bytes → Prop}
    (hseparate : Separate a start h root dirs last original Holds) :
    Decides a start responds h where
  verdict := by
    rintro slot job calls result (⟨hreachable, hended⟩ | ⟨hreachable, -, hrefused⟩)
    · obtain ⟨-, hsound⟩ := hseparate.keepsApart hreachable slot _ hended
      exact ⟨_, _, rfl, hsound.verdict⟩
    · obtain ⟨w, p, hplaced⟩ := (hseparate.sound hreachable).exists_placementOf
        hseparate.sandboxed _ slot (a.testsFor job.mutation)
      cases hrefused.symm.trans hplaced
  obstacle := by
    intro m mutant hmutant
    obtain ⟨w, request, hplaced, -, hdirectory, hcopy⟩ := exists_placementOf
      hseparate.sandboxed hseparate.inside hseparate.reached (w := ⟨start, [], []⟩)
      ReflTransGen.refl 0 m
    rw [Assignment.obstacle, hplaced]
    exact (hseparate.work 0).obstacle_eq (hseparate.fresh 0 w.files hdirectory hcopy) hmutant
  unwritten := by
    intro y hreachable slot t phase ht hphase e hmutant outcome
    obtain ⟨-, hsound⟩ := hseparate.keepsApart hreachable slot t ht
    exact Turn.Sound.unwritten hsound hphase hmutant outcome

/-- Tests that run in a copy and look at nothing but the file there answer to its mutant. -/
theorem Separate.eq_of_hears {root : Address} {dirs : List String} {last : String}
    {original : Bytes} {Holds : Nat → FileSystem → Bytes → Prop}
    (hseparate : Separate a start h root dirs last original Holds)
    {answer : Except FileError Bytes → Except RunFailure Nat}
    (hanswers : ∀ fs request outcome, responds fs request outcome →
      outcome = answer (a.seenSource fs request)) {m : Mutation} {p : Placement} {mutant : String}
    {outcome : Except RunFailure Nat} (hhears : Hears a start responds m p mutant outcome) :
    outcome = answer (.ok (encoded mutant)) := by
  obtain ⟨y, slot, guard, calls, kept, hreachable, htesting, hread, hresponds⟩ := hhears
  have hsound := hseparate.sound hreachable
  have hoccupied := occupant_yard htesting
  obtain ⟨copy, hlookup⟩ := Option.isSome_iff_exists.mp (hsound.housed slot _ hoccupied)
  have hstands := hsound.stands slot copy hlookup
  rw [hoccupied] at hstands
  obtain ⟨htarget, hrequest, -⟩ := hstands
  rw [hanswers _ _ _ hresponds, ← hread, show p.target = _ from htarget]
  exact congrArg answer (seenSource_eq_read hseparate.sandboxed hsound.directory hrequest)

variable (hdecides : Decides a start responds h)

include hdecides

theorem Decides.job_eq (slot : Nat) (job : Job) (result : JobResult)
    (hdelivers : Delivers a start responds slot job result) : result.job = job := by
  obtain ⟨calls, hgives⟩ := hdelivers
  obtain ⟨p, r, rfl, hverdict⟩ := hdecides.verdict slot job calls result hgives
  rw [JobResult.job, hverdict.mutation_eq]
  rfl

theorem Decides.classified {slot : Nat} {job : Job} {calls : List (Except RunFailure Nat)}
    {result : JobResult} (hgives : Gives a start responds slot job calls result) :
    Classified (job.mutation.render a.source a.options.strict) (a.obstacle start job.mutation)
      calls result.result := by
  obtain ⟨p, r, rfl, hverdict⟩ := hdecides.verdict slot job calls result hgives
  exact hverdict.classified (hdecides.obstacle job.mutation)

/-- If the runner has an answer to the tests and the content of the file, every job gets the result
that this answer leads to. -/
theorem Decides.eq_settled {answer : List Path → Bytes → Except RunFailure Nat}
    (hanswer : ∀ m p mutant outcome, Hears a start responds m p mutant outcome →
      outcome = answer (a.testsFor m) (encoded mutant)) {slot : Nat} {job : Job}
    {result : JobResult} (hdelivers : Delivers a start responds slot job result) :
    result = a.settled start answer job := by
  obtain ⟨calls, hgives⟩ := hdelivers
  obtain ⟨p, r, rfl, hverdict⟩ := hdecides.verdict slot job calls result hgives
  rw [Assignment.settled]
  cases hverdict with
  | unrendered hmutant =>
      have hrender : job.mutation.render a.source a.options.strict = _ := hmutant
      rw [hrender]
      rfl
  | hindered hmutant hfirst =>
      have hrender : job.mutation.render a.source a.options.strict = _ := hmutant
      rw [hrender, hdecides.obstacle job.mutation _ hrender, hfirst]
      rfl
  | tested hmutant hfirst hheard =>
      have hrender : job.mutation.render a.source a.options.strict = _ := hmutant
      rw [hrender, hdecides.obstacle job.mutation _ hrender, hfirst,
        hanswer job.mutation p _ _ hheard]
      rfl

variable (hworkers : 1 ≤ a.options.workers) {jobs : List Job}

include hworkers

/-- A pool that carries out one job after the other returns what it may return. -/
theorem Decides.returns_runJobs
    (hruns : ∀ fs request, responds fs request (a.runner fs request)) (jobs : List Job) :
    Returns a start responds jobs (runJobs a start jobs).results := by
  have hsteps := Dispatch.steps_run_of_kept hworkers hdecides.job_eq
    (fun w => Reachable a start responds (idle w))
    (fun w slot job hw => hw.execute hruns slot job) (fun _ => 0) jobs.length ⟨start, [], []⟩
    ReflTransGen.refl (Coordinator.initial a.options.workers jobs)
    (Dispatch.consistent_initial JobResult.job a.options.workers jobs) (Nat.le_refl _)
  exact ⟨_, hsteps, rfl, rfl⟩

/-- A pool that has not returned can go on. -/
theorem Decides.exists_step (hruns : ∀ fs request, responds fs request (a.runner fs request))
    {d : Dispatch Job JobResult}
    (hreachable : Dispatch.Reachable (Delivers a start responds) a.options.workers jobs d)
    (hstage : d.stage ≠ .returned) : ∃ next, Dispatch.Step (Delivers a start responds) d next := by
  have hidle : Reachable a start responds (idle ⟨start, [], []⟩) := ReflTransGen.refl
  have hgives : ∀ slot job, ∃ result, Delivers a start responds slot job result :=
    fun slot job => ⟨_, (hidle.execute hruns slot job).2⟩
  exact Dispatch.exists_step hgives (hreachable.consistent hworkers hdecides.job_eq) hstage

variable {results : List JobResult} (hreturns : Returns a start responds jobs results)

include hreturns

theorem Decides.jobs_perm : (results.map JobResult.job).Perm jobs := by
  obtain ⟨d, hreachable, hstage, rfl⟩ := hreturns
  exact Dispatch.results_perm_of_returned (hreachable.consistent hworkers hdecides.job_eq) hstage

omit hworkers in
theorem Decides.exists_gives {result : JobResult} (hresult : result ∈ results) :
    ∃ slot calls, Gives a start responds slot result.job calls result := by
  obtain ⟨d, hreachable, -, rfl⟩ := hreturns
  obtain ⟨slot, job, hdelivers⟩ := hreachable.delivered result (List.mem_append_right _ hresult)
  obtain ⟨calls, hgives⟩ := hdelivers
  rw [hdecides.job_eq slot job result ⟨calls, hgives⟩]
  exact ⟨slot, calls, hgives⟩

/-- The other jobs do not matter for the result of a job. -/
theorem Decides.results_perm {answer : List Path → Bytes → Except RunFailure Nat}
    (hanswer : ∀ m p mutant outcome, Hears a start responds m p mutant outcome →
      outcome = answer (a.testsFor m) (encoded mutant)) :
    results.Perm (jobs.map (a.settled start answer)) := by
  have hsettled : results = (results.map JobResult.job).map (a.settled start answer) := by
    rw [List.map_map]
    refine (List.map_id results).symm.trans (List.map_congr_left fun result hresult => ?_)
    obtain ⟨slot, calls, hgives⟩ := hdecides.exists_gives hreturns hresult
    exact hdecides.eq_settled hanswer ⟨calls, hgives⟩
  rw [hsettled]
  exact (hdecides.jobs_perm hworkers hreturns).map _

end Decisions

end Floor

end MutationTesting.Run
