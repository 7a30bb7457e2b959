import MutationTesting.Mutation.Mutant

/-!
# What rendering comes to

Rendering applies a mutation, writes the tree out and checks the text.  It reports a mismatch only
if the mutation was looked for and fits nothing.
-/

namespace MutationTesting.Mutation

variable {m : Mutation} {file : SourceFile}

/-- The text of a tree, if it is the text of a program. -/
def checkedText (t : Tree) : Except MutantError String :=
  match Source.unparseText? t with
  | none => .error (.invalid .cannotRender)
  | some text => if Source.compiles text then .ok text else .error (.invalid .doesNotCompile)

theorem render_of_apply_ok {patched : Tree} {applied strict : Bool}
    (happly : m.apply file.tree = .ok (patched, applied))
    (hkept : strict = false ∨ applied = true) :
    m.render file strict = checkedText patched := by
  have hchecked : (do
      let text ← writeTree patched
      if Source.compiles text then pure text else throw (MutantError.invalid .doesNotCompile)) =
        checkedText patched := by
    rw [writeTree, checkedText]
    cases Source.unparseText? patched <;> rfl
  rw [← hchecked, render, happly]
  rcases hkept with rfl | rfl
  · rfl
  · cases strict <;> rfl

theorem unparseText?_of_checkedText {t : Tree} {text : String}
    (hchecked : checkedText t = .ok text) :
    Source.unparseText? t = some text ∧ Source.compiles text = true := by
  rw [checkedText] at hchecked
  split at hchecked
  · cases hchecked
  next written hwritten =>
      split at hchecked
      next hcompiles =>
          cases hchecked
          exact ⟨hwritten, hcompiles⟩
      next => cases hchecked

end MutationTesting.Mutation
