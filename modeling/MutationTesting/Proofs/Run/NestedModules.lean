import Mathlib.Data.List.Range
import MutationTesting.Proofs.Failure
import MutationTesting.Proofs.Run.Serialization
import MutationTesting.Run.PatchedModule

/-!
# Mutants registered inside one another

Blocks that register a mutant can be nested and can follow each other, under one name or several.
Whatever is done inside a block, and however it ends, the block leaves the registry as it found it:
what is done inside changes nothing but the name of the block, and that is put back.
-/

namespace MutationTesting.Run

namespace Registry

variable (r : Registry) (name other : String) (m : Loaded)

theorem get?_erase :
    (r.erase name).get? other = if other = name then none else r.get? other := by
  rw [get?, erase, get?]
  induction r.modules with
  | nil => simp
  | cons entry rest ih =>
      obtain ⟨key, value⟩ := entry
      by_cases hkey : key = name
      · rw [List.filter_cons_of_neg (by simp [hkey]), ih, List.lookup_cons, hkey]
        by_cases hother : other = name
        · rw [if_pos hother, if_pos hother]
        · rw [if_neg hother, if_neg hother, beq_false_of_ne hother]
      · rw [List.filter_cons_of_pos (by simp [hkey]), List.lookup_cons, List.lookup_cons, ih]
        by_cases hother : other = key
        · simp [hother, hkey]
        · rw [beq_false_of_ne hother]

theorem get?_put :
    (r.put name m).get? other = if other = name then some m else r.get? other := by
  rw [put, get?, List.lookup_cons]
  by_cases hother : other = name
  · rw [hother, if_pos rfl]
    simp
  · rw [beq_false_of_ne hother, if_neg hother]
    exact (r.get?_erase name other).trans (if_neg hother)

theorem get?_restore (before : Option Loaded) :
    (r.restore name before).get? other = if other = name then before else r.get? other := by
  cases before with
  | none => exact r.get?_erase name other
  | some m => exact r.get?_put name other m

/-- Whether all registered mutants are those of blocks before a number. -/
def MutantsBefore (block : Nat) : Prop :=
  ∀ name number, r.get? name = some (.mutant number) → number < block

theorem MutantsBefore.put {r : Registry} {block : Nat} (hbefore : r.MutantsBefore block)
    (own : String) : (r.put own (.mutant block)).MutantsBefore (block + 1) := by
  intro name number hentry
  rw [get?_put] at hentry
  split at hentry
  · cases hentry
    exact Nat.lt_succ_self _
  · exact Nat.lt_succ_of_lt (hbefore name number hentry)

theorem MutantsBefore.erase {r : Registry} {block : Nat} (hbefore : r.MutantsBefore block)
    (own : String) : (r.erase own).MutantsBefore block := by
  intro name number hentry
  rw [get?_erase] at hentry
  split at hentry
  · cases hentry
  · exact hbefore name number hentry

end Registry

namespace Attempt

variable {b : Attempt} {r inside : Registry} {block : Nat} {displaced : Displaced}

/-- A block is entered just when its mutant can be written out and executed. -/
theorem exists_enter_iff (b : Attempt) (r : Registry) (block : Nat) :
    (∃ entered, b.enter r block = .ok entered) ↔
      (∃ text, b.mutation.render b.source b.strict = .ok text) ∧ b.runs = true := by
  rw [enter, Displaced.enter, exists_bind_eq_ok_iff]
  cases b.runs <;> simp [pure, Except.pure, bind, Except.bind, throw, throwThe, MonadExceptOf.throw]

theorem enter_eq_ok (henter : b.enter r block = .ok (inside, displaced)) :
    inside = r.put b.name (.mutant block) ∧ displaced = ⟨b.name, r.get? b.name⟩ := by
  rw [enter, Displaced.enter, bind_eq_ok_iff] at henter
  obtain ⟨text, -, hrest⟩ := henter
  cases hruns : b.runs with
  | false =>
      rw [hruns] at hrest
      cases hrest
  | true =>
      rw [hruns] at hrest
      cases hrest
      exact ⟨rfl, rfl⟩

end Attempt

/-- The numbers of the blocks that were entered. -/
def enteredBlocks (passages : List Passage) : List Nat :=
  passages.filterMap fun p => p.inside.map (·.1)

/-- A block that leaves the registry as it was, and inside which its mutant is registered. -/
structure Passage.PutsBack (p : Passage) : Prop where
  after : ∀ name, p.after.get? name = p.before.get? name
  entered : p.inside.isSome ↔
    (∃ text, p.attempt.mutation.render p.attempt.source p.attempt.strict = .ok text) ∧
      p.attempt.runs = true
  own : ∀ block inside, p.inside = some (block, inside) →
    inside.get? p.attempt.name = some (.mutant block)
  others : ∀ block inside, p.inside = some (block, inside) →
    ∀ name, name ≠ p.attempt.name → inside.get? name = p.before.get? name
  fresh : ∀ block inside, p.inside = some (block, inside) →
    ∀ name, p.before.get? name ≠ some (.mutant block)

namespace Passage

variable {b : Attempt} {r left inside : Registry} {block : Nat} {displaced : Displaced}
variable {e : MutantError} {error : Option BlockError}

theorem putsBack_of_enter_error (henter : b.enter r block = .error e) :
    PutsBack ⟨b, r, none, r, error⟩ where
  after := fun _ => rfl
  entered := by
    rw [← b.exists_enter_iff r block, henter]
    simp
  own := by simp
  others := by simp
  fresh := by simp

theorem putsBack_of_enter_ok (henter : b.enter r block = .ok (inside, displaced))
    (hbefore : r.MutantsBefore block) (hleft : ∀ name, left.get? name = r.get? name) :
    PutsBack ⟨b, r, some (block, inside), left, error⟩ where
  after := hleft
  entered := by
    rw [← b.exists_enter_iff r block, henter]
    simp
  own := by
    rintro _ _ hinside
    cases hinside
    rw [(Attempt.enter_eq_ok henter).1, Registry.get?_put, if_pos rfl]
  others := by
    rintro _ _ hinside name hname
    cases hinside
    rw [(Attempt.enter_eq_ok henter).1, Registry.get?_put, if_neg hname]
  fresh := by
    rintro _ _ hinside name hsame
    cases hinside
    exact absurd (hbefore name block hsame) (Nat.lt_irrefl _)

end Passage

/-- What an activity inside the block of a name leaves of a registry, with the blocks tried in it. -/
structure Progress.Tidy (own : String) (r : Registry) (block : Nat) (p : Progress) : Prop where
  /-- Every entry is kept, but the block's own may be gone. -/
  entries : ∀ name, p.registry.get? name = r.get? name ∨
    name = own ∧ p.registry.get? name = none
  le : block ≤ p.block
  numbers : enteredBlocks p.passages = List.range' block (p.block - block)
  passages : ∀ passage ∈ p.passages, passage.PutsBack

namespace Progress.Tidy

variable {own : String} {r : Registry} {block : Nat} {p : Progress}

/-- Two activities one after the other leave what both may leave. -/
theorem andThen {next : Registry → Nat → Progress} {caught : Bool} (htidy : p.Tidy own r block)
    (hnext : (next p.registry p.block).Tidy own p.registry p.block) :
    (p.andThen caught next).Tidy own r block := by
  rw [Progress.andThen]
  split
  · exact htidy
  · constructor
    · intro name
      rcases hnext.entries name with hkept | hgone
      · rw [hkept]
        exact htidy.entries name
      · exact .inr hgone
    · exact Nat.le_trans htidy.le hnext.le
    · have hlater := hnext.le
      have hearlier := htidy.le
      show enteredBlocks (p.passages ++ (next p.registry p.block).passages) = _
      rw [enteredBlocks, List.filterMap_append, ← enteredBlocks, ← enteredBlocks, htidy.numbers,
        hnext.numbers]
      have hsplit : (next p.registry p.block).block - block =
          (p.block - block) + ((next p.registry p.block).block - p.block) := by omega
      rw [hsplit, ← List.range'_append_1, Nat.add_sub_cancel' hearlier]
    · intro passage hpassage
      rcases List.mem_append.mp hpassage with hearlier | hlater
      · exact htidy.passages passage hearlier
      · exact hnext.passages passage hlater

/-- What is done inside a block may take out its entry, but leaving the block puts it back. -/
theorem get?_leave {b : Attempt} (hdone : p.Tidy b.name (r.put b.name (.mutant block)) (block + 1))
    (name : String) :
    (Displaced.leave ⟨b.name, r.get? b.name⟩ p.registry).get? name = r.get? name := by
  rw [Displaced.leave, Registry.get?_restore]
  by_cases hname : name = b.name
  · rw [if_pos hname, hname]
  · rw [if_neg hname]
    rcases hdone.entries name with hkept | ⟨hown, -⟩
    · rw [hkept, Registry.get?_put, if_neg hname]
    · exact absurd hown hname

/-- A block leaves the registry as it was if what is done inside takes out no more than the block's
own entry. -/
theorem around (b : Attempt) {inner : Registry → Nat → Progress} (hbefore : r.MutantsBefore block)
    (hinner : ∀ inside, inside.MutantsBefore (block + 1) →
      (inner inside (block + 1)).Tidy b.name inside (block + 1)) :
    (b.around r block inner).Tidy own r block := by
  rw [Attempt.around]
  cases henter : b.enter r block with
  | error e =>
      refine ⟨fun _ => .inl rfl, Nat.le_refl _, by simp [enteredBlocks], ?_⟩
      simpa using Passage.putsBack_of_enter_error henter
  | ok entered =>
      obtain ⟨inside, displaced⟩ := entered
      obtain ⟨rfl, rfl⟩ := Attempt.enter_eq_ok henter
      have hdone := hinner _ (hbefore.put b.name)
      refine ⟨fun name => .inl (hdone.get?_leave name), Nat.le_of_succ_le hdone.le, ?_, ?_⟩
      · have hle := hdone.le
        dsimp only
        generalize inner (r.put b.name (.mutant block)) (block + 1) = done at hdone hle
        have hcount : done.block - block = (done.block - (block + 1)) + 1 := by omega
        rw [hcount, List.range'_succ, ← hdone.numbers]
        rfl
      · exact List.forall_mem_cons.mpr
          ⟨Passage.putsBack_of_enter_ok henter hbefore hdone.get?_leave, hdone.passages⟩

end Progress.Tidy

end MutationTesting.Run
