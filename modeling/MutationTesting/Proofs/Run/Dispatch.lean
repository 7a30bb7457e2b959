import Mathlib.Data.List.Perm.Subperm
import Mathlib.Logic.Relation
import MutationTesting.Run.Coordinator

/-!
# The coordinator beside its workers

A worker puts its result in a queue whenever it is done, while the coordinator goes on with its
loop.  The steps of both are listed here one by one, in any order that the queue allows.  What
every step keeps true is that the slots are shared between the free ones and the workers, and the
jobs between the waiting ones, the workers and the results.
-/

namespace MutationTesting.Run

open Relation (ReflTransGen)

/-- Where the coordinator is in its loop. -/
inductive Stage where
  /-- It looks whether anything is left to do. -/
  | deciding
  /-- It starts jobs, one at a time. -/
  | starting
  /-- It takes the next result, as soon as there is one. -/
  | waiting
  | returned
deriving DecidableEq, Repr

/-- A coordinator with the results that it has not taken yet, in order of completion. -/
structure Dispatch (Job Result : Type) extends Coordinator Job Result where
  finished : List (Nat × Result)
  stage : Stage
deriving Repr

theorem Coordinator.isDone_iff {Job Result : Type} {c : Coordinator Job Result} :
    c.isDone = true ↔ c.pending = [] ∧ c.active = [] := by
  simp [Coordinator.isDone]

namespace Dispatch

variable {Job Result : Type}

def initial (slots : Nat) (jobs : List Job) : Dispatch Job Result :=
  ⟨Coordinator.initial slots jobs, [], .deciding⟩

section Steps

/- The results that a worker may give for a job in a slot. -/
variable (delivers : Nat → Job → Result → Prop)

/-- One step of the coordinator or of a worker. -/
inductive Step : Dispatch Job Result → Dispatch Job Result → Prop
  | goOn {c : Coordinator Job Result} {finished : List (Nat × Result)} (hleft : c.isDone = false) :
      Step ⟨c, finished, .deciding⟩ ⟨c, finished, .starting⟩
  | stop {c : Coordinator Job Result} {finished : List (Nat × Result)} (hdone : c.isDone = true) :
      Step ⟨c, finished, .deciding⟩ ⟨c, finished, .returned⟩
  | start {job : Job} {slot : Nat} {pending : List Job} {active : List (Nat × Job)}
      {free : List Nat} {results : List Result} {finished : List (Nat × Result)} :
      Step ⟨⟨job :: pending, active, slot :: free, results⟩, finished, .starting⟩
        ⟨⟨pending, active ++ [(slot, job)], free, results⟩, finished, .starting⟩
  | wait {c : Coordinator Job Result} {finished : List (Nat × Result)}
      (hstarted : c.pending = [] ∨ c.free = []) :
      Step ⟨c, finished, .starting⟩ ⟨c, finished, .waiting⟩
  | take {c : Coordinator Job Result} {slot : Nat} {result : Result}
      {finished : List (Nat × Result)} :
      Step ⟨c, (slot, result) :: finished, .waiting⟩ ⟨c.complete slot result, finished, .deciding⟩
  | finish {c : Coordinator Job Result} {slot : Nat} {job : Job} {result : Result}
      {finished : List (Nat × Result)} {stage : Stage} (hactive : (slot, job) ∈ c.active)
      (hrunning : slot ∉ finished.map Prod.fst) (hresult : delivers slot job result) :
      Step ⟨c, finished, stage⟩ ⟨c, finished ++ [(slot, result)], stage⟩

/-- The states that a dispatch of jobs can get into. -/
def Reachable (slots : Nat) (jobs : List Job) (d : Dispatch Job Result) : Prop :=
  ReflTransGen (Step delivers) (initial slots jobs) d

end Steps

/-- What is true of a dispatch at every moment. -/
structure Consistent (jobOf : Result → Job) (slots : Nat) (jobs : List Job)
    (d : Dispatch Job Result) : Prop where
  /-- Every slot is either free or at work on one job. -/
  slots_shared : (d.free ++ d.active.map Prod.fst).Perm (List.range slots)
  /-- Every job is done, at work or waiting, as often as it was given. -/
  jobs_shared : (d.results.map jobOf ++ d.active.map Prod.snd ++ d.pending).Perm jobs
  /-- A result that waits in the queue is about the job at work in its slot. -/
  finished_active : ∀ done ∈ d.finished, (done.1, jobOf done.2) ∈ d.active
  finished_once : (d.finished.map Prod.fst).Nodup
  starting_left : d.stage = .starting → d.isDone = false
  waiting_active : d.stage = .waiting → d.active ≠ []
  returned_done : d.stage = .returned → d.isDone = true
  /-- With one slot, jobs are done in the order in which they were given. -/
  in_order : slots = 1 → d.results.map jobOf ++ d.active.map Prod.snd ++ d.pending = jobs

section Slots

variable {active : List (Nat × Job)} {slot : Nat} {job : Job}

/-- Filtering out a slot takes away just the job at work in it. -/
theorem perm_cons_filter_of_mem (hnodup : (active.map Prod.fst).Nodup)
    (hmem : (slot, job) ∈ active) :
    active.Perm ((slot, job) :: active.filter fun a => !decide (a.1 = slot)) := by
  induction active with
  | nil => cases hmem
  | cons head tail ih =>
      rw [List.map_cons, List.nodup_cons] at hnodup
      rcases List.mem_cons.mp hmem with hhead | htail
      · subst hhead
        have hkept : (tail.filter fun a => !decide (a.1 = slot)) = tail := by
          rw [List.filter_eq_self]
          intro a ha
          have hother : a.1 ≠ slot := fun heq => hnodup.1 (List.mem_map.mpr ⟨a, ha, heq⟩)
          simp [hother]
        simp [hkept]
      · have hother : head.1 ≠ slot := fun heq =>
          hnodup.1 (heq ▸ List.mem_map_of_mem (f := Prod.fst) htail)
        have hperm := (ih hnodup.2 htail).cons head
        simpa [hother] using hperm.trans (List.Perm.swap _ _ _)

end Slots

namespace Consistent

variable {jobOf : Result → Job} {slots : Nat} {jobs : List Job} {d : Dispatch Job Result}

/-- No slot is shared, and no slot works on two jobs at once. -/
theorem slots_nodup (hd : d.Consistent jobOf slots jobs) :
    (d.free ++ d.active.map Prod.fst).Nodup :=
  hd.slots_shared.nodup_iff.mpr List.nodup_range

theorem active_nodup (hd : d.Consistent jobOf slots jobs) : (d.active.map Prod.fst).Nodup :=
  (List.nodup_append.mp hd.slots_nodup).2.1

theorem length_free_add_length_active (hd : d.Consistent jobOf slots jobs) :
    d.free.length + d.active.length = slots := by
  simpa using hd.slots_shared.length_eq

/-- There are never more jobs at work than slots. -/
theorem length_active_le (hd : d.Consistent jobOf slots jobs) : d.active.length ≤ slots := by
  have hlength := hd.length_free_add_length_active
  omega

theorem length_finished_le (hd : d.Consistent jobOf slots jobs) :
    d.finished.length ≤ d.active.length := by
  have hsubset : d.finished.map Prod.fst ⊆ d.active.map Prod.fst := by
    intro slot hslot
    obtain ⟨done, hdone, rfl⟩ := List.mem_map.mp hslot
    exact List.mem_map.mpr ⟨_, hd.finished_active done hdone, rfl⟩
  simpa using (List.Nodup.subperm hd.finished_once hsubset).length_le

end Consistent

theorem consistent_initial (jobOf : Result → Job) (slots : Nat) (jobs : List Job) :
    (initial slots jobs : Dispatch Job Result).Consistent jobOf slots jobs where
  slots_shared := by simp [initial, Coordinator.initial]
  jobs_shared := by simp [initial, Coordinator.initial]
  finished_active := by simp [initial]
  finished_once := by simp [initial]
  starting_left := by simp [initial]
  waiting_active := by simp [initial]
  returned_done := by simp [initial]
  in_order := by simp [initial, Coordinator.initial]

section Invariant

variable {jobOf : Result → Job} {slots : Nat} {jobs : List Job}

theorem consistent_start {job : Job} {slot : Nat} {pending : List Job}
    {active : List (Nat × Job)} {free : List Nat} {results : List Result}
    {finished : List (Nat × Result)}
    (hd : Consistent jobOf slots jobs
      ⟨⟨job :: pending, active, slot :: free, results⟩, finished, .starting⟩) :
    Consistent jobOf slots jobs
      ⟨⟨pending, active ++ [(slot, job)], free, results⟩, finished, .starting⟩ where
  slots_shared := by
    have hmoved : (free ++ (active.map Prod.fst ++ [slot])).Perm
        (slot :: free ++ active.map Prod.fst) := by
      simpa using List.perm_append_singleton slot (free ++ active.map Prod.fst)
    simpa using hmoved.trans hd.slots_shared
  jobs_shared := by simpa using hd.jobs_shared
  finished_active := fun done hdone => List.mem_append_left _ (hd.finished_active done hdone)
  finished_once := hd.finished_once
  starting_left := by simp [Coordinator.isDone]
  waiting_active := by simp
  returned_done := by simp
  in_order := fun hone => by simpa using hd.in_order hone

/-- With a single slot, the job at work is the only one. -/
theorem eq_singleton_of_one_slot {d : Dispatch Job Result} (hd : d.Consistent jobOf slots jobs)
    (hone : slots = 1) {slot : Nat} {job : Job} (hmem : (slot, job) ∈ d.active) :
    d.active = [(slot, job)] := by
  have hle : d.active.length ≤ 1 := hone ▸ hd.length_active_le
  have hpos : 0 < d.active.length := List.length_pos_of_mem hmem
  obtain ⟨a, ha⟩ := List.length_eq_one_iff.mp (Nat.le_antisymm hle hpos)
  rw [ha, List.mem_singleton] at hmem
  rw [ha, hmem]

theorem consistent_take {c : Coordinator Job Result} {slot : Nat} {result : Result}
    {finished : List (Nat × Result)}
    (hd : Consistent jobOf slots jobs ⟨c, (slot, result) :: finished, .waiting⟩) :
    Consistent jobOf slots jobs ⟨c.complete slot result, finished, .deciding⟩ := by
  have hmem : (slot, jobOf result) ∈ c.active := hd.finished_active (slot, result) (by simp)
  have hperm := perm_cons_filter_of_mem hd.active_nodup hmem
  have honce := List.nodup_cons.mp hd.finished_once
  exact
    { slots_shared := by
        have hslots : (c.free ++ [slot] ++
            (c.active.filter fun a => !decide (a.1 = slot)).map Prod.fst).Perm
            (c.free ++ c.active.map Prod.fst) := by
          simpa using ((hperm.map Prod.fst).symm.append_left c.free)
        exact hslots.trans hd.slots_shared
      jobs_shared := by
        have hjobs : (c.results.map jobOf ++ [jobOf result] ++
            (c.active.filter fun a => !decide (a.1 = slot)).map Prod.snd ++ c.pending).Perm
            (c.results.map jobOf ++ c.active.map Prod.snd ++ c.pending) := by
          simpa using (((hperm.map Prod.snd).symm.append_right c.pending).append_left
            (c.results.map jobOf))
        simpa [Coordinator.complete] using hjobs.trans hd.jobs_shared
      finished_active := by
        intro done hdone
        have hother : done.1 ≠ slot := fun heq =>
          honce.1 (List.mem_map.mpr ⟨done, hdone, heq⟩)
        have hactive := hd.finished_active done (List.mem_cons_of_mem _ hdone)
        simpa [Coordinator.complete, hother] using hactive
      finished_once := honce.2
      starting_left := by simp
      waiting_active := by simp
      returned_done := by simp
      in_order := by
        intro hone
        have hactive := eq_singleton_of_one_slot hd hone hmem
        have horder := hd.in_order hone
        simp only at hactive horder
        simpa [Coordinator.complete, hactive] using horder }

theorem consistent_finish {c : Coordinator Job Result} {slot : Nat} {result : Result}
    {finished : List (Nat × Result)} {stage : Stage}
    (hd : Consistent jobOf slots jobs ⟨c, finished, stage⟩)
    (hactive : (slot, jobOf result) ∈ c.active) (hrunning : slot ∉ finished.map Prod.fst) :
    Consistent jobOf slots jobs ⟨c, finished ++ [(slot, result)], stage⟩ :=
  { hd with
    finished_active := by
      intro done hdone
      rcases List.mem_append.mp hdone with hdone | hdone
      · exact hd.finished_active done hdone
      · rw [List.mem_singleton.mp hdone]
        exact hactive
    finished_once := by
      rw [List.map_append, List.map_singleton, (List.perm_append_singleton _ _).nodup_iff]
      exact List.nodup_cons.mpr ⟨hrunning, hd.finished_once⟩ }

variable {delivers : Nat → Job → Result → Prop}

/-- No step loses a slot or a job. -/
theorem Step.consistent (hslots : 1 ≤ slots)
    (hdelivers : ∀ slot job result, delivers slot job result → jobOf result = job)
    {d next : Dispatch Job Result} (hstep : Step delivers d next)
    (hd : d.Consistent jobOf slots jobs) : next.Consistent jobOf slots jobs := by
  cases hstep with
  | goOn hleft =>
      exact { hd with
        starting_left := fun _ => hleft
        waiting_active := by simp
        returned_done := by simp }
  | stop hdone =>
      exact { hd with
        starting_left := by simp
        waiting_active := by simp
        returned_done := fun _ => hdone }
  | start => exact consistent_start hd
  | wait hstarted =>
      refine { hd with
        starting_left := by simp
        waiting_active := fun _ hidle => ?_
        returned_done := by simp }
      -- Without a worker all slots are free, so every job was started and is done.
      have hleft := hd.starting_left rfl
      have hlength := hd.length_free_add_length_active
      rcases hstarted with hpending | hfree
      · simp only at hidle
        simp [Coordinator.isDone, hpending, hidle] at hleft
      · simp only at hidle hlength
        simp only [hidle, hfree, List.length_nil] at hlength
        omega
  | take => exact consistent_take hd
  | finish hactive hrunning hresult =>
      rw [← hdelivers _ _ _ hresult] at hactive
      exact consistent_finish hd hactive hrunning

theorem consistent_of_steps (hslots : 1 ≤ slots)
    (hdelivers : ∀ slot job result, delivers slot job result → jobOf result = job)
    {d later : Dispatch Job Result} (hsteps : ReflTransGen (Step delivers) d later)
    (hd : d.Consistent jobOf slots jobs) : later.Consistent jobOf slots jobs := by
  induction hsteps with
  | refl => exact hd
  | tail _ hstep ih => exact hstep.consistent hslots hdelivers ih

theorem Reachable.consistent (hslots : 1 ≤ slots)
    (hdelivers : ∀ slot job result, delivers slot job result → jobOf result = job)
    {d : Dispatch Job Result} (hd : Reachable delivers slots jobs d) :
    d.Consistent jobOf slots jobs :=
  consistent_of_steps hslots hdelivers hd (consistent_initial jobOf slots jobs)

/-- Every result, taken or not, was given by a worker. -/
theorem Reachable.delivered {d : Dispatch Job Result} (hd : Reachable delivers slots jobs d) :
    ∀ result ∈ d.finished.map Prod.snd ++ d.results, ∃ slot job, delivers slot job result := by
  induction hd with
  | refl => simp [initial, Coordinator.initial]
  | tail _ hstep ih =>
      cases hstep with
      | goOn _ | stop _ | start | wait _ => exact ih
      | @take c slot result finished =>
          intro other hother
          apply ih
          simp only [Coordinator.complete, List.map_cons, List.mem_append, List.mem_cons,
            List.not_mem_nil, or_false] at hother ⊢
          tauto
      | @finish c slot job result finished stage hactive hrunning hresult =>
          intro other hother
          simp only [List.map_append, List.map_singleton, List.mem_append, List.mem_singleton]
            at hother
          rcases hother with (hqueued | rfl) | htaken
          · exact ih other (List.mem_append_left _ hqueued)
          · exact ⟨slot, job, hresult⟩
          · exact ih other (List.mem_append_right _ htaken)

end Invariant

end Dispatch

end MutationTesting.Run
