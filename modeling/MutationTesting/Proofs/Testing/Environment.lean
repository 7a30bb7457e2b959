import MutationTesting.Proofs.Text.Split
import MutationTesting.Testing.Invocation

/-!
# Environments

A variable that is changed has its new value, and all others keep theirs.  The environment of a test
process has the variables of the options before those of the parent, but for three that the runner sets:
one of them lists the directories that modules are imported from, with the plugin among them.
-/

namespace MutationTesting.Testing

open MutationTesting.Text (pieces)

namespace Environment

variable {e changes : Environment} {name other value : String}

@[simp]
theorem get?_set (e : Environment) (name value : String) :
    (e.set name value).get? name = some value := by
  induction e with
  | nil => simp [set, get?]
  | cons first rest ih =>
      obtain ⟨n, v⟩ := first
      rw [get?] at ih
      by_cases hname : n = name
      · simp [set, get?, hname]
      · rw [set, if_neg hname, get?, List.lookup_cons, beq_false_of_ne (Ne.symm hname), ih]

theorem get?_set_of_ne (hother : other ≠ name) (e : Environment) (value : String) :
    (e.set name value).get? other = e.get? other := by
  induction e with
  | nil => simp [set, get?, List.lookup_cons, beq_false_of_ne hother]
  | cons first rest ih =>
      obtain ⟨n, v⟩ := first
      rw [get?, get?] at ih
      by_cases hname : n = name
      · subst hname
        simp [set, get?, List.lookup_cons, beq_false_of_ne hother]
      · rw [set, if_neg hname, get?, get?, List.lookup_cons, List.lookup_cons, ih]

theorem map_fst_set (e : Environment) (name value : String) :
    (e.set name value).map Prod.fst =
      if name ∈ e.map Prod.fst then e.map Prod.fst else e.map Prod.fst ++ [name] := by
  induction e with
  | nil => rfl
  | cons first rest ih =>
      obtain ⟨n, v⟩ := first
      rw [set]
      split
      next hname => simp [hname]
      next hname =>
          rw [List.map_cons, List.map_cons, ih]
          split <;> simp_all [Ne.symm hname]

/-- Changing a variable adds its name at most. -/
theorem nodup_names_set (hnodup : (e.map Prod.fst).Nodup) (name value : String) :
    ((e.set name value).map Prod.fst).Nodup := by
  rw [map_fst_set]
  split
  next => exact hnodup
  next hnew =>
      rw [(List.perm_append_singleton _ _).nodup_iff]
      exact List.nodup_cons.mpr ⟨hnew, hnodup⟩

theorem get?_eq_none_of_not_mem (hname : name ∉ e.map Prod.fst) : e.get? name = none := by
  rw [get?, List.lookup_eq_none_iff]
  intro entry hentry
  rw [bne_iff_ne]
  rintro rfl
  exact hname (List.mem_map_of_mem hentry)

/-- A variable has the value that it is changed to, or else the value that it had. -/
theorem get?_update (hnodup : (changes.map Prod.fst).Nodup) (e : Environment) (name : String) :
    (e.update changes).get? name = (changes.get? name).or (e.get? name) := by
  induction changes generalizing e with
  | nil => rfl
  | cons first rest ih =>
      obtain ⟨n, v⟩ := first
      obtain ⟨hnew, hrest⟩ := List.nodup_cons.mp hnodup
      rw [update, List.foldl_cons]
      refine (ih hrest _).trans ?_
      by_cases hname : name = n
      · subst hname
        rw [get?_eq_none_of_not_mem hnew, get?_set]
        simp [get?]
      · rw [get?_set_of_ne hname]
        simp [get?, List.lookup_cons, beq_false_of_ne hname]

end Environment

section Process

variable (installation : Installation) (parent : Environment) (o : InvocationOptions)

theorem get?_buildEnvironment_compiled :
    (buildEnvironment installation parent o).get? "PYTHONDONTWRITEBYTECODE" = some "1" := by
  rw [buildEnvironment, Environment.get?_set_of_ne (by decide), Environment.get?_set]

theorem get?_buildEnvironment_name :
    (buildEnvironment installation parent o).get? "MUTASCOPE_ENV" = some o.environmentName := by
  rw [buildEnvironment, Environment.get?_set]

/-- The runner changes three variables only. -/
theorem get?_buildEnvironment_of_ne {name : String} (hpath : name ≠ searchPathName)
    (hcompiled : name ≠ "PYTHONDONTWRITEBYTECODE") (hname : name ≠ "MUTASCOPE_ENV") :
    (buildEnvironment installation parent o).get? name =
      (parent.update o.environment).get? name := by
  unfold buildEnvironment
  dsimp only
  rw [Environment.get?_set_of_ne hname, Environment.get?_set_of_ne hcompiled]
  split
  · rfl
  · exact Environment.get?_set_of_ne hpath _ _

/-- The search path of a test process has the plugin, at its end if it was not there before. -/
theorem get?_buildEnvironment_searchPath {text : String}
    (htext : (parent.update o.environment).get? searchPathName = some text) :
    (buildEnvironment installation parent o).get? searchPathName =
      some (if installation.pluginRoot ∈ searchPathEntries text then text
        else searchPathText (searchPathEntries text ++ [installation.pluginRoot])) := by
  unfold buildEnvironment
  dsimp only
  rw [Environment.get?_set_of_ne (by decide), Environment.get?_set_of_ne (by decide), htext,
    Option.getD_some]
  simp only [List.contains_iff_mem]
  split
  · exact htext
  · exact Environment.get?_set _ _ _

end Process

end MutationTesting.Testing
