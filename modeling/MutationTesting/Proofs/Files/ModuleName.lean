import MutationTesting.Files.Discovery
import MutationTesting.Proofs.Text.Split

/-!
# Names of modules

The name of a module consists of identifiers with points between them.  So it has no star in it, and it
does not begin with a point.
-/

namespace MutationTesting.Files

open MutationTesting.Text

theorem not_mem_of_isIdentifier {part : List Char} {c : Char} (hpart : isIdentifier part = true)
    (hstart : isIdentifierStart c = false) (hcontinue : isIdentifierContinue c = false) :
    c ∉ part := by
  intro hmem
  cases part with
  | nil => cases hmem
  | cons first rest =>
      rw [isIdentifier, Bool.and_eq_true, List.all_eq_true] at hpart
      rcases List.mem_cons.mp hmem with rfl | hlater
      · rw [hpart.1] at hstart
        cases hstart
      · rw [hpart.2 c hlater] at hcontinue
        cases hcontinue

/-- Whether a text consists of identifiers with points between them. -/
def IsDottedName (name : String) : Prop :=
  ∃ parts, parts ≠ [] ∧ (∀ part ∈ parts, isIdentifier part.toList = true) ∧
    name = String.intercalate "." parts

theorem isDottedName_of_dottedName? {relative : Path} {name : String}
    (hname : dottedName? relative = some name) : IsDottedName name := by
  rw [dottedName?, Option.ite_none_left_eq_some] at hname
  obtain ⟨-, hname⟩ := hname
  dsimp only at hname
  rw [Option.ite_none_left_eq_some] at hname
  obtain ⟨hparts, hname⟩ := hname
  rw [Bool.or_eq_true, not_or, List.isEmpty_iff, Bool.not_eq_true', Bool.not_eq_false,
    List.all_eq_true] at hparts
  exact ⟨_, hparts.1, hparts.2, (Option.some.inj hname).symm⟩

theorem isDottedName_of_moduleName? {location : Location} {root : Option Path} {path : Path}
    {name : String} (hname : moduleName? location root path = some name) : IsDottedName name :=
  isDottedName_of_dottedName? hname

namespace IsDottedName

variable {name : String}

/-- The first character is one that identifiers begin with. -/
theorem exists_toList_eq_cons (hname : IsDottedName name) :
    ∃ c rest, name.toList = c :: rest ∧ isIdentifierStart c = true := by
  obtain ⟨parts, hnonempty, hparts, rfl⟩ := hname
  cases parts with
  | nil => exact absurd rfl hnonempty
  | cons first rest =>
      obtain ⟨others, hothers⟩ := exists_intercalate_cons "." first rest
      have hfirst := hparts first List.mem_cons_self
      cases hchars : first.toList with
      | nil => simp [hchars, isIdentifier] at hfirst
      | cons c chars =>
          rw [hchars, isIdentifier, Bool.and_eq_true] at hfirst
          exact ⟨c, chars ++ others, by rw [hothers, hchars, List.cons_append], hfirst.1⟩

theorem ne_empty (hname : IsDottedName name) : name ≠ "" := by
  obtain ⟨c, rest, hchars, -⟩ := hname.exists_toList_eq_cons
  rintro rfl
  simp at hchars

theorem ne_point_append (hname : IsDottedName name) (rest : String) : name ≠ "." ++ rest := by
  obtain ⟨c, chars, hchars, hstart⟩ := hname.exists_toList_eq_cons
  rintro rfl
  rw [String.toList_append] at hchars
  cases hchars
  exact absurd hstart (by decide)

theorem star_not_mem (hname : IsDottedName name) : '*' ∉ name.toList := by
  obtain ⟨parts, -, hparts, rfl⟩ := hname
  intro hstar
  rcases mem_toList_intercalate hstar with hpoint | ⟨part, hpart, hmem⟩
  · simp at hpoint
  · exact not_mem_of_isIdentifier (hparts part hpart) (by decide) (by decide) hmem

end IsDottedName

/-- A file is loaded with its absolute path and the name of its module. -/
theorem Discovery.fields_of_loadFile? {fs : FileSystem} {searchPath : List Path}
    {root : Option Path} {excluded : List String} {path : Path} {source : SourceFile}
    (hload : loadFile? fs searchPath root excluded path = some source) :
    source.path = fs.absolute path ∧
      source.moduleId = moduleName? ⟨fs.directory, searchPath⟩ root path := by
  rw [loadFile?, Option.ite_none_left_eq_some] at hload
  obtain ⟨⟨text, tree⟩, -, hsource⟩ := Option.bind_eq_some_iff.mp hload.2
  cases hsource
  dsimp only
  exact ⟨rfl, rfl⟩

end MutationTesting.Files
