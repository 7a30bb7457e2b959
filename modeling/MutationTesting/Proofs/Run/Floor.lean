import MutationTesting.Proofs.Run.Verdict

/-!
# All workers of a pool at once

Every slot of a pool has at most one worker.  The workers take their steps in any order, except that
a worker whose file has no copy waits for the lock of the file.  The runner may answer in any way.

Workers at one file take turns, since they all wait for the same lock.  Workers with a copy each do
not need one.  Either way each of them comes to its verdict as if it were alone.
-/

namespace MutationTesting.Run

open MutationTesting.Files
open MutationTesting.Testing
open Relation (ReflTransGen)

/-- The lock that a worker of a pool waits for.  Where the file has a copy, there is none. -/
def Assignment.guard (a : Assignment) (fs : FileSystem) : Option Address :=
  let lock := fs.store.realAddress fs.directory a.source.path
  match a.options.isolation with
  | .lock => some lock
  | .sandbox =>
    let b : Sandbox := ⟨fs.directory, a.project fs, ""⟩
    if b.isInside a.source.path then none else some lock

/-- The work of one worker on one mutant. -/
structure Turn where
  mutation : Mutation
  placement : Placement
  guard : Option Address
  /-- How the calls to the runner ended. -/
  calls : List (Except RunFailure Nat)
  /-- How far the worker has got.  Without a phase it waits for its lock. -/
  phase : Option Phase

/-- The files, the copies of the project by slot, the locks with the slots that hold them, and the
workers by slot. -/
structure Floor where
  files : FileSystem
  sandboxes : List (Nat × Path)
  holder : Address → Option Nat
  turn : Nat → Option Turn

namespace Floor

def initial (fs : FileSystem) : Floor := ⟨fs, [], fun _ => none, fun _ => none⟩

/-- The locks, with another holder of one. -/
def handOver (holder : Address → Option Nat) (guard : Option Address) (slot : Option Nat) :
    Address → Option Nat :=
  match guard with
  | none => holder
  | some lock => Function.update holder lock slot

section Steps

/- The outcomes that the runner may give to a request with the files that it sees. -/
variable (a : Assignment) (start : FileSystem)
variable (responds : FileSystem → TestRun → Except RunFailure Nat → Prop)

/-- One step in one slot. -/
inductive Step : Floor → Floor → Prop
  | place {y : Floor} {slot : Nat} {m : Mutation} {observations : List Observation} {w : Workshop}
      {p : Placement} (hvacant : y.turn slot = none)
      (hplaced : placementOf a ⟨y.files, y.sandboxes, observations⟩ slot (a.testsFor m) =
        .ok (w, p)) :
      Step y ⟨w.files, w.sandboxes, y.holder,
        Function.update y.turn slot (some ⟨m, p, a.guard y.files, [], none⟩)⟩
  | enter {y : Floor} {slot : Nat} {m : Mutation} {p : Placement} {guard : Option Address}
      {calls : List (Except RunFailure Nat)}
      (hwaits : y.turn slot = some ⟨m, p, guard, calls, none⟩)
      (hfree : ∀ lock ∈ guard, y.holder lock = none) :
      Step y
        { y with
          holder := handOver y.holder guard (some slot)
          turn := Function.update y.turn slot (some ⟨m, p, guard, calls, some .entered⟩) }
  | advance {y : Floor} {slot : Nat} {m : Mutation} {p : Placement} {guard : Option Address}
      {calls : List (Except RunFailure Nat)} {phase : Phase} {outcome : Except RunFailure Nat}
      (hinside : y.turn slot = some ⟨m, p, guard, calls, some phase⟩)
      (hresponds : ∀ kept, phase = .testing kept → responds y.files p.request outcome) :
      Step y
        { y with
          files := ((a.worker m p).advance outcome y.files phase).1
          turn := Function.update y.turn slot (some ⟨m, p, guard, calls ++ phase.calls outcome,
            some ((a.worker m p).advance outcome y.files phase).2⟩) }
  | finish {y : Floor} {slot : Nat} {m : Mutation} {p : Placement} {guard : Option Address}
      {calls : List (Except RunFailure Nat)} {result : MutationResult}
      (hended : y.turn slot = some ⟨m, p, guard, calls, some (.ended result)⟩) :
      Step y
        { y with
          holder := handOver y.holder guard none
          turn := Function.update y.turn slot none }

def Reachable (y : Floor) : Prop := ReflTransGen (Step a responds) (initial start) y

/-- What a worker may give for a job in a slot, and how its calls to the runner ended. -/
inductive Gives (slot : Nat) (job : Job) : List (Except RunFailure Nat) → JobResult → Prop
  | ended {y : Floor} {p : Placement} {guard : Option Address}
      {calls : List (Except RunFailure Nat)} {result : MutationResult}
      (hreachable : Reachable a start responds y)
      (hended : y.turn slot = some ⟨job.mutation, p, guard, calls, some (.ended result)⟩) :
      Gives slot job calls ⟨job.place, result⟩
  | refused {y : Floor} {observations : List Observation} {e : FileError}
      (hreachable : Reachable a start responds y) (hvacant : y.turn slot = none)
      (hrefused : placementOf a ⟨y.files, y.sandboxes, observations⟩ slot
        (a.testsFor job.mutation) = .error e) :
      Gives slot job [] ⟨job.place, failed job.mutation (.file e)⟩

/-- What the runner may answer for a mutation while its mutant is in its place. -/
def Hears (m : Mutation) (p : Placement) (mutant : String) (outcome : Except RunFailure Nat) :
    Prop :=
  ∃ y slot guard calls kept, Reachable a start responds y ∧
    y.turn slot = some ⟨m, p, guard, calls, some (.testing kept)⟩ ∧
      y.files.read p.target = .ok (encoded mutant) ∧ responds y.files p.request outcome

end Steps

end Floor

section Turns

variable (a : Assignment) (start : FileSystem)
variable (responds : FileSystem → TestRun → Except RunFailure Nat → Prop)

/-- What is true of the turn of a worker at every moment. -/
structure Turn.Sound (h : Hindrances) (Holds : FileSystem → Bytes → Prop) (original : Bytes)
    (fs : FileSystem) (t : Turn) : Prop where
  uncalled : t.phase = none → t.calls = []
  told : ∀ phase, t.phase = some phase →
    Workable.Told (a.worker t.mutation t.placement) h Holds
      (Floor.Hears a start responds t.mutation t.placement) original t.calls (fs, phase)

variable {a start responds} {h : Hindrances} {Holds : FileSystem → Bytes → Prop}
variable {original : Bytes} {fs : FileSystem} {m : Mutation} {p : Placement}
variable {guard : Option Address} {calls : List (Except RunFailure Nat)}

theorem Turn.sound_place :
    Turn.Sound a start responds h Holds original fs ⟨m, p, guard, [], none⟩ :=
  ⟨fun _ => rfl, fun _ hphase => by cases hphase⟩

theorem Turn.Sound.enter (hsound : Turn.Sound a start responds h Holds original fs
      ⟨m, p, guard, calls, none⟩) (hholds : Holds fs original) :
    Turn.Sound a start responds h Holds original fs ⟨m, p, guard, calls, some .entered⟩ where
  uncalled := fun hphase => by cases hphase
  told := by
    intro phase hphase
    cases hphase
    exact ⟨original, hholds, rfl, hsound.uncalled rfl⟩

theorem Turn.Sound.advance {y : Floor} {slot : Nat} {phase : Phase}
    {outcome : Except RunFailure Nat}
    (hsound : Turn.Sound a start responds h Holds original y.files
      ⟨m, p, guard, calls, some phase⟩)
    (hwork : Workable h p.target Holds) (hreachable : Floor.Reachable a start responds y)
    (hinside : y.turn slot = some ⟨m, p, guard, calls, some phase⟩)
    (hresponds : ∀ kept, phase = .testing kept → responds y.files p.request outcome) :
    Turn.Sound a start responds h Holds original
      ((a.worker m p).advance outcome y.files phase).1
      ⟨m, p, guard, calls ++ phase.calls outcome,
        some ((a.worker m p).advance outcome y.files phase).2⟩ where
  uncalled := fun hphase => by cases hphase
  told := by
    rintro next ⟨⟩
    have hwork : Workable h (a.worker m p).path Holds := hwork
    refine hwork.told_advance (hsound.told phase rfl) ?_
    rintro kept mutant rfl - hread
    exact ⟨y, slot, guard, calls, kept, hreachable, hinside, hread, hresponds kept rfl⟩

/-- A change of the files that keeps what is said of them. -/
theorem Turn.Sound.mono {fs' : FileSystem} {t : Turn}
    (hsound : Turn.Sound a start responds h Holds original fs t)
    (hholds : t.phase ≠ none → ∀ content, Holds fs content → Holds fs' content) :
    Turn.Sound a start responds h Holds original fs' t where
  uncalled := hsound.uncalled
  told := by
    intro phase hphase
    obtain ⟨content, hheld, htells⟩ := hsound.told phase hphase
    exact ⟨content, hholds (by simp [hphase]) content hheld, htells⟩

theorem Turn.Sound.verdict {result : MutationResult}
    (hsound : Turn.Sound a start responds h Holds original fs
      ⟨m, p, guard, calls, some (.ended result)⟩) :
    Verdict (a.worker m p) h (Floor.Hears a start responds m p) calls result := by
  obtain ⟨content, -, -, hverdict⟩ := hsound.told _ rfl
  exact hverdict

end Turns

namespace Floor

section InPlace

variable (a : Assignment) (start : FileSystem)
variable (responds : FileSystem → TestRun → Except RunFailure Nat → Prop)
variable (h : Hindrances) (Holds : FileSystem → Bytes → Prop) (file : Address) (original : Bytes)

/-- A file that all workers of a pool patch where it is. -/
structure Shared : Prop where
  work : Workable h a.source.path Holds
  guard : ∀ fs content, Holds fs content → a.guard fs = some file
  placed : ∀ w slot tests content, Holds w.files content →
    ∃ w' p, placementOf a w slot tests = .ok (w', p) ∧ p.target = a.source.path ∧
      Holds w'.files content
  start : Holds start original

/-- The workers take turns at the file. -/
structure TakesTurns (y : Floor) : Prop where
  held : ∃ content, Holds y.files content ∧ (y.holder file = none → content = original)
  turn : ∀ slot t, y.turn slot = some t → t.placement.target = a.source.path ∧
    t.guard = some file ∧ Turn.Sound a start responds h Holds original y.files t
  holder : ∀ slot t phase, y.turn slot = some t → t.phase = some phase →
    y.holder file = some slot

variable {a start responds h Holds file original} {y next : Floor}

variable (hshared : Shared a start h Holds file original)

theorem takesTurns_initial (hstart : Holds start original) :
    TakesTurns a start responds h Holds file original (initial start) where
  held := ⟨original, hstart, fun _ => rfl⟩
  turn := by simp [initial]
  holder := by simp [initial]

/-- The lock lets one worker in. -/
theorem TakesTurns.eq_of_inside
    (hturns : TakesTurns a start responds h Holds file original y) {slot other : Nat} {t t' : Turn}
    {phase phase' : Phase} (ht : y.turn slot = some t) (hphase : t.phase = some phase)
    (ht' : y.turn other = some t') (hphase' : t'.phase = some phase') : other = slot :=
  Option.some.inj ((hturns.holder other t' phase' ht' hphase').symm.trans
    (hturns.holder slot t phase ht hphase))

/-- A move in one slot is right if the new turn is, and the other turns still are. -/
theorem TakesTurns.moved (hturns : TakesTurns a start responds h Holds file original y)
    {slot : Nat} {files : FileSystem} {sandboxes : List (Nat × Path)}
    {holder : Address → Option Nat} {new : Option Turn} {content : Bytes}
    (hheld : Holds files content) (hfree : holder file = none → content = original)
    (hnew : ∀ t, new = some t → t.placement.target = a.source.path ∧ t.guard = some file ∧
      Turn.Sound a start responds h Holds original files t ∧
        (t.phase ≠ none → holder file = some slot))
    (hothers : ∀ other t, other ≠ slot → y.turn other = some t → t.phase ≠ none →
      holder file = some other ∧ ∀ content, Holds y.files content → Holds files content) :
    TakesTurns a start responds h Holds file original
      ⟨files, sandboxes, holder, Function.update y.turn slot new⟩ := by
  have hall : ∀ other t, Function.update y.turn slot new other = some t →
      t.placement.target = a.source.path ∧ t.guard = some file ∧
        Turn.Sound a start responds h Holds original files t ∧
          (t.phase ≠ none → holder file = some other) := by
    refine (Function.forall_update_iff y.turn fun other here => ∀ t, here = some t →
      t.placement.target = a.source.path ∧ t.guard = some file ∧
        Turn.Sound a start responds h Holds original files t ∧
          (t.phase ≠ none → holder file = some other)).mpr ⟨hnew, fun other hother t ht => ?_⟩
    obtain ⟨htarget, hguard, hsound⟩ := hturns.turn other t ht
    exact ⟨htarget, hguard, hsound.mono fun hphase => (hothers other t hother ht hphase).2,
      fun hphase => (hothers other t hother ht hphase).1⟩
  refine ⟨⟨content, hheld, hfree⟩, fun other t ht => ?_, fun other t phase ht hphase => ?_⟩
  · obtain ⟨htarget, hguard, hsound, -⟩ := hall other t ht
    exact ⟨htarget, hguard, hsound⟩
  · exact (hall other t ht).2.2.2 (by simp [hphase])

theorem TakesTurns.enter (hturns : TakesTurns a start responds h Holds file original y)
    {slot : Nat} {m : Mutation} {p : Placement} {guard : Option Address}
    {calls : List (Except RunFailure Nat)}
    (hwaits : y.turn slot = some ⟨m, p, guard, calls, none⟩)
    (hfree : ∀ lock ∈ guard, y.holder lock = none) :
    TakesTurns a start responds h Holds file original
      { y with
        holder := handOver y.holder guard (some slot)
        turn := Function.update y.turn slot (some ⟨m, p, guard, calls, some .entered⟩) } := by
  obtain ⟨htarget, rfl, hsound⟩ := hturns.turn slot _ hwaits
  obtain ⟨content, hheld, horiginal⟩ := hturns.held
  have hnobody := hfree file rfl
  obtain rfl := horiginal hnobody
  refine hturns.moved hheld (fun _ => rfl) ?_ fun other t _ ht hphase => ?_
  · rintro t ⟨⟩
    exact ⟨htarget, rfl, hsound.enter hheld, fun _ => Function.update_self ..⟩
  · obtain ⟨phase, hphase⟩ := Option.ne_none_iff_exists'.mp hphase
    have hinside := hturns.holder other t phase ht hphase
    rw [hnobody] at hinside
    cases hinside

theorem TakesTurns.finish (hturns : TakesTurns a start responds h Holds file original y)
    {slot : Nat} {m : Mutation} {p : Placement} {guard : Option Address}
    {calls : List (Except RunFailure Nat)} {result : MutationResult}
    (hended : y.turn slot = some ⟨m, p, guard, calls, some (.ended result)⟩) :
    TakesTurns a start responds h Holds file original
      { y with
        holder := handOver y.holder guard none
        turn := Function.update y.turn slot none } := by
  obtain ⟨-, rfl, hsound⟩ := hturns.turn slot _ hended
  obtain ⟨content, hheld, rfl, -⟩ := hsound.told _ rfl
  refine hturns.moved hheld (fun _ => rfl) ?_ fun other t hother ht hphase => ?_
  · rintro t ⟨⟩
  · obtain ⟨phase, hphase⟩ := Option.ne_none_iff_exists'.mp hphase
    exact absurd (hturns.eq_of_inside hended rfl ht hphase) hother

include hshared

theorem TakesTurns.place (hturns : TakesTurns a start responds h Holds file original y)
    {slot : Nat} {m : Mutation} {observations : List Observation} {w : Workshop} {p : Placement}
    (hplaced : placementOf a ⟨y.files, y.sandboxes, observations⟩ slot (a.testsFor m) =
      .ok (w, p)) :
    TakesTurns a start responds h Holds file original
      ⟨w.files, w.sandboxes, y.holder,
        Function.update y.turn slot (some ⟨m, p, a.guard y.files, [], none⟩)⟩ := by
  have hkept : ∀ content, Holds y.files content →
      p.target = a.source.path ∧ Holds w.files content := by
    intro content hheld
    obtain ⟨w', p', hother, htarget, hnext⟩ := hshared.placed
      ⟨y.files, y.sandboxes, observations⟩ slot (a.testsFor m) content hheld
    cases hplaced.symm.trans hother
    exact ⟨htarget, hnext⟩
  obtain ⟨content, hheld, horiginal⟩ := hturns.held
  refine hturns.moved (hkept content hheld).2 horiginal ?_ fun other t _ ht hphase => ?_
  · rintro t ⟨⟩
    exact ⟨(hkept content hheld).1, hshared.guard _ content hheld, Turn.sound_place,
      fun hphase => absurd rfl hphase⟩
  · obtain ⟨phase, hphase⟩ := Option.ne_none_iff_exists'.mp hphase
    exact ⟨hturns.holder other t phase ht hphase, fun content hheld => (hkept content hheld).2⟩

theorem TakesTurns.advance (hturns : TakesTurns a start responds h Holds file original y)
    (hreachable : Reachable a start responds y)
    {slot : Nat} {m : Mutation} {p : Placement} {guard : Option Address}
    {calls : List (Except RunFailure Nat)} {phase : Phase} {outcome : Except RunFailure Nat}
    (hinside : y.turn slot = some ⟨m, p, guard, calls, some phase⟩)
    (hresponds : ∀ kept, phase = .testing kept → responds y.files p.request outcome) :
    TakesTurns a start responds h Holds file original
      { y with
        files := ((a.worker m p).advance outcome y.files phase).1
        turn := Function.update y.turn slot (some ⟨m, p, guard, calls ++ phase.calls outcome,
          some ((a.worker m p).advance outcome y.files phase).2⟩) } := by
  obtain ⟨htarget, hguard, hsound⟩ := hturns.turn slot _ hinside
  have hwork : Workable h p.target Holds := htarget ▸ hshared.work
  have hnext := hsound.advance hwork hreachable hinside hresponds
  have hholder := hturns.holder slot _ phase hinside rfl
  obtain ⟨content, hheld, -⟩ := hnext.told _ rfl
  refine hturns.moved hheld ?_ ?_ fun other t hother ht hphase => ?_
  · intro hfree
    rw [hholder] at hfree
    cases hfree
  · rintro t ⟨⟩
    exact ⟨htarget, hguard, hnext, fun _ => hholder⟩
  · obtain ⟨phase', hphase⟩ := Option.ne_none_iff_exists'.mp hphase
    exact absurd (hturns.eq_of_inside hinside rfl ht hphase) hother

/-- No step takes a worker's turn away. -/
theorem TakesTurns.step (hturns : TakesTurns a start responds h Holds file original y)
    (hreachable : Reachable a start responds y) (hstep : Step a responds y next) :
    TakesTurns a start responds h Holds file original next := by
  cases hstep with
  | place _ hplaced => exact hturns.place hshared hplaced
  | enter hwaits hfree => exact hturns.enter hwaits hfree
  | advance hinside hresponds => exact hturns.advance hshared hreachable hinside hresponds
  | finish hended => exact hturns.finish hended

theorem Shared.takesTurns (hreachable : Reachable a start responds y) :
    TakesTurns a start responds h Holds file original y := by
  induction hreachable with
  | refl => exact takesTurns_initial hshared.start
  | tail hreached hstep ih => exact ih.step hshared hreached hstep

end InPlace

/-- The same workers, where those that wait are taken to have entered. -/
def yard (y : Floor) : Yard :=
  ⟨y.files, y.sandboxes, Option.map (fun t => ⟨t.mutation, t.placement, t.phase.getD .entered⟩) ∘
    y.turn⟩

section Copies

variable {a : Assignment} {start : FileSystem}
variable {responds : FileSystem → TestRun → Except RunFailure Nat → Prop} {y next : Floor}

theorem occupant_yard {slot : Nat} {t : Turn} (ht : y.turn slot = some t) :
    y.yard.occupant slot = some ⟨t.mutation, t.placement, t.phase.getD .entered⟩ := by
  simp only [Floor.yard, Function.comp_apply, ht, Option.map_some]

theorem Step.yard (hstep : Step a responds y next) :
    next.yard = y.yard ∨ Yard.Step a y.yard next.yard := by
  cases hstep with
  | place hvacant hplaced =>
      right
      simp only [Floor.yard, Function.comp_update, Option.map_some, Option.getD_none]
      exact .place (by simp [hvacant]) hplaced
  | enter hwaits hfree =>
      left
      simp only [Floor.yard, Function.comp_update, Yard.mk.injEq, true_and]
      exact Function.update_eq_self_iff.mpr (occupant_yard hwaits).symm
  | @advance slot m p guard calls phase outcome hinside hresponds =>
      right
      simp only [Floor.yard, Function.comp_update, Option.map_some, Option.getD_some]
      exact .advance outcome (occupant_yard hinside)
  | finish hended =>
      right
      simp only [Floor.yard, Function.comp_update, Option.map_none]
      exact .finish (occupant_yard hended)

/-- Locks apart, workers take the steps of workers in sandboxes. -/
theorem Reachable.yard (hreachable : Reachable a start responds y) :
    Yard.Reachable a start y.yard := by
  induction hreachable with
  | refl => exact ReflTransGen.refl
  | tail _ hstep ih =>
      rcases hstep.yard with hsame | hstep
      · rw [hsame]
        exact ih
      · exact ih.tail hstep

end Copies

section OwnCopies

variable (a : Assignment) (start : FileSystem)
variable (responds : FileSystem → TestRun → Except RunFailure Nat → Prop)
variable (h : Hindrances) (root : Address) (dirs : List String) (last : String) (original : Bytes)
variable (Holds : Nat → FileSystem → Bytes → Prop)

/-- A file of which every slot patches a copy of its own. -/
structure Separate : Prop where
  sandboxed : Sandboxed a start root (dirs ++ [last])
  inside : Text.startsWith ".." ((dirs ++ [last]).headD "") = false
  reached : (start.store.inside root).Way [] (dirs ++ [last]) [] (dirs ++ [last]) (.file original)
  work : ∀ slot, Workable h (copyPath (copyRoot (a.project start) slot) dirs last) (Holds slot)
  fresh : ∀ slot fs, fs.directory = start.directory →
    IsCopy (start.store.inside root) fs.store (copyRoot (a.project start) slot) →
      Holds slot fs original
  /-- What is elsewhere does not matter. -/
  congr : ∀ slot fs fs' content, fs'.directory = fs.directory →
    (∀ address, address <+: copyRoot (a.project start) slot ∨
      copyRoot (a.project start) slot <+: address →
        fs'.store.get? address = fs.store.get? address) →
      Holds slot fs content → Holds slot fs' content

/-- Every worker is at the copy of its slot. -/
def KeepsApart (y : Floor) : Prop :=
  ∀ slot t, y.turn slot = some t →
    t.guard = none ∧ Turn.Sound a start responds h (Holds slot) original y.files t

variable {a start responds h root dirs last original Holds} {y next : Floor}

theorem KeepsApart.moved (hseparate : Separate a start h root dirs last original Holds)
    (hapart : KeepsApart a start responds h original Holds y) {slot : Nat} {files : FileSystem}
    {sandboxes : List (Nat × Path)} {holder : Address → Option Nat} {new : Option Turn}
    (hdirectory : files.directory = y.files.directory)
    (houtside : ∀ address, ¬ copyParent slot <+: address →
      files.store.get? address = y.files.store.get? address)
    (hnew : ∀ t, new = some t →
      t.guard = none ∧ Turn.Sound a start responds h (Holds slot) original files t) :
    KeepsApart a start responds h original Holds
      ⟨files, sandboxes, holder, Function.update y.turn slot new⟩ := by
  refine (Function.forall_update_iff y.turn fun other here => ∀ t, here = some t →
    t.guard = none ∧ Turn.Sound a start responds h (Holds other) original files t).mpr
      ⟨hnew, fun other hother t ht => ?_⟩
  obtain ⟨hguard, hsound⟩ := hapart other t ht
  refine ⟨hguard, hsound.mono fun _ content => ?_⟩
  exact hseparate.congr other y.files files content hdirectory fun address hnear =>
    houtside address (not_copyParent_above (Ne.symm hother) hnear)

variable (hseparate : Separate a start h root dirs last original Holds)
variable (hsound : Yard.Sound a start root dirs last y.yard)
variable (hapart : KeepsApart a start responds h original Holds y)

include hseparate hsound

/-- A placement makes at most the copy of its slot. -/
theorem outside_of_placementOf {slot : Nat} {tests : List Path} {observations : List Observation}
    {w : Workshop} {p : Placement}
    (hplaced : placementOf a ⟨y.files, y.sandboxes, observations⟩ slot tests = .ok (w, p)) :
    w.files.directory = y.files.directory ∧ ∀ address, ¬ copyParent slot <+: address →
      w.files.store.get? address = y.files.store.get? address := by
  obtain ⟨copy, hsandbox, -⟩ :=
    placementOf_eq_ok hseparate.sandboxed hsound.directory hplaced
  refine ⟨directory_of_sandboxOf hsandbox, fun address hother => ?_⟩
  rcases sandboxOf_eq_ok hsandbox with ⟨rfl, -⟩ | ⟨-, -, source, -, rfl⟩
  · rfl
  · exact get?_copyTree_of_outside (hsound.grows _ _ hseparate.sandboxed.temporary) hother

theorem guard_eq_none : a.guard y.files = none := by
  have hdirectory : y.files.directory = start.directory := hsound.directory
  have hinside := isInside_eq hseparate.sandboxed (by simp) ""
  rw [hseparate.inside, ← hdirectory, ← project_congr a hdirectory] at hinside
  rw [Assignment.guard, hseparate.sandboxed.isolation]
  exact if_pos hinside

include hapart

theorem KeepsApart.place {slot : Nat} {m : Mutation} {observations : List Observation}
    {w : Workshop} {p : Placement}
    (hplaced : placementOf a ⟨y.files, y.sandboxes, observations⟩ slot (a.testsFor m) =
      .ok (w, p)) :
    KeepsApart a start responds h original Holds
      ⟨w.files, w.sandboxes, y.holder,
        Function.update y.turn slot (some ⟨m, p, a.guard y.files, [], none⟩)⟩ := by
  obtain ⟨hdirectory, houtside⟩ := outside_of_placementOf hseparate hsound hplaced
  refine hapart.moved hseparate hdirectory houtside ?_
  rintro t ⟨⟩
  exact ⟨guard_eq_none hseparate hsound, Turn.sound_place⟩

theorem KeepsApart.enter {slot : Nat} {m : Mutation} {p : Placement} {guard : Option Address}
    {calls : List (Except RunFailure Nat)}
    (hwaits : y.turn slot = some ⟨m, p, guard, calls, none⟩) :
    KeepsApart a start responds h original Holds
      { y with
        holder := handOver y.holder guard (some slot)
        turn := Function.update y.turn slot (some ⟨m, p, guard, calls, some .entered⟩) } := by
  refine hapart.moved hseparate rfl (fun _ _ => rfl) ?_
  rintro t ⟨⟩
  obtain ⟨hguard, hturn⟩ := hapart slot _ hwaits
  have hoccupied := occupant_yard hwaits
  obtain ⟨copy, hlookup⟩ := Option.isSome_iff_exists.mp (hsound.housed slot _ hoccupied)
  have hstands := hsound.stands slot copy hlookup
  rw [hoccupied] at hstands
  exact ⟨hguard, hturn.enter (hseparate.fresh slot y.files hsound.directory hstands.2.2)⟩

theorem KeepsApart.advance {slot : Nat} {m : Mutation} {p : Placement} {guard : Option Address}
    {calls : List (Except RunFailure Nat)} {phase : Phase} {outcome : Except RunFailure Nat}
    (hreachable : Reachable a start responds y)
    (hinside : y.turn slot = some ⟨m, p, guard, calls, some phase⟩)
    (hresponds : ∀ kept, phase = .testing kept → responds y.files p.request outcome) :
    KeepsApart a start responds h original Holds
      { y with
        files := ((a.worker m p).advance outcome y.files phase).1
        turn := Function.update y.turn slot (some ⟨m, p, guard, calls ++ phase.calls outcome,
          some ((a.worker m p).advance outcome y.files phase).2⟩) } := by
  obtain ⟨hdirs, hlast⟩ := Path.isComponent_concat_iff.mp hseparate.sandboxed.isComponent_place
  have hoccupied := occupant_yard hinside
  obtain ⟨copy, hlookup⟩ := Option.isSome_iff_exists.mp (hsound.housed slot _ hoccupied)
  have hstands := hsound.stands slot copy hlookup
  rw [hoccupied] at hstands
  obtain ⟨htarget, -, hphase⟩ := hstands
  obtain ⟨hconfined, -⟩ := SharedTask.sheltered_advance (t := a.worker m p)
    (hseparate.sandboxed.isComponent_copyRoot slot) (by simp [copyRoot]) hdirs hlast htarget
    hseparate.reached outcome hphase
  obtain ⟨hguard, hturn⟩ := hapart slot _ hinside
  have hwork : Workable h p.target (Holds slot) :=
    (show p.target = _ from htarget) ▸ hseparate.work slot
  refine hapart.moved hseparate hconfined.directory (fun address hother => ?_) ?_
  · exact hconfined.outside address fun hunder =>
      hother ((List.prefix_append (copyParent slot) _).trans hunder)
  · rintro t ⟨⟩
    exact ⟨hguard, hturn.advance hwork hreachable hinside hresponds⟩

/-- No step disturbs a worker in another slot. -/
theorem KeepsApart.step (hreachable : Reachable a start responds y)
    (hstep : Step a responds y next) :
    KeepsApart a start responds h original Holds next := by
  cases hstep with
  | place _ hplaced => exact hapart.place hseparate hsound hplaced
  | enter hwaits _ => exact hapart.enter hseparate hsound hwaits
  | advance hinside hresponds =>
      exact hapart.advance hseparate hsound hreachable hinside hresponds
  | finish _ =>
      exact hapart.moved hseparate rfl (fun _ _ => rfl) fun t ht => by cases ht

omit hsound hapart

theorem Separate.sound (hreachable : Reachable a start responds y) :
    Yard.Sound a start root dirs last y.yard :=
  hreachable.yard.sound hseparate.sandboxed hseparate.inside hseparate.reached

theorem Separate.keepsApart (hreachable : Reachable a start responds y) :
    KeepsApart a start responds h original Holds y := by
  induction hreachable with
  | refl =>
      intro slot t ht
      cases ht
  | tail hreached hstep ih =>
      exact ih.step hseparate (hseparate.sound hreached) hreached hstep

end OwnCopies

end Floor

end MutationTesting.Run
