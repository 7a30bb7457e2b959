import MutationTesting.Files.Glob
import MutationTesting.Proofs.Text.Split

/-!
# Where the paths of a pattern lie

When only the last name of a pattern has wildcards, the paths it stands for all lie in one
directory.
-/

namespace MutationTesting

open Text (splitAt pieces startsWith endsWith)

namespace Files

namespace Path

theorem segments_ne_nil (path : Path) : segments path ≠ [] := by
  simpa [segments, pieces] using Text.splitAt_ne_nil separator path.toList

variable {base name : Path}

theorem join_eq (hbase : base ≠ "") (hend : endsWith "/" base = false)
    (hname : isAbsolute name = false) : join base name = base ++ "/" ++ name := by
  simp [join, hbase, hend, hname]

theorem segments_join (hbase : base ≠ "") (hend : endsWith "/" base = false)
    (hname : isAbsolute name = false) :
    segments (join base name) = segments base ++ segments name := by
  rw [join_eq hbase hend hname]
  exact Text.pieces_append separator base name

theorem join_absolute (hname : isAbsolute name = true) : join base name = name := by
  simp [join, hname]

theorem isAbsolute_join (hbase : isAbsolute base = true) : isAbsolute (join base name) = true := by
  rw [join]
  split
  · next hor =>
      rcases Bool.or_eq_true_iff.mp hor with hname | hempty
      · exact hname
      · rw [decide_eq_true_eq] at hempty
        subst hempty
        cases hbase
  · have hunder : ∀ rest : String, isAbsolute (base ++ rest) = true := by
      intro rest
      rw [isAbsolute, startsWith, List.isPrefixOf_iff_prefix] at hbase ⊢
      rw [String.toList_append]
      exact hbase.trans (List.prefix_append _ _)
    split
    · exact hunder name
    · rw [String.append_assoc]
      exact hunder ("/" ++ name)

end Path

namespace Glob

/-- If only the last name of a pattern has wildcards, what it stands for lies in one directory. -/
theorem exists_join_of_mem_expand {fs : FileSystem} {pattern path : Path}
    (hname : hasWildcard (Path.baseName pattern) = true)
    (hany : Path.baseName pattern ≠ anyDirectories) (hpattern : hasWildcard pattern = true)
    (hdirectory : Path.parent pattern ≠ "") (hplain : hasWildcard (Path.parent pattern) = false)
    (hpath : path ∈ expand fs pattern) :
    ∃ name, matchesPattern (Path.baseName pattern) name = true ∧
      path = Path.join (Path.parent pattern) name := by
  rw [expand, expandFrom] at hpath
  simp only [hpattern, hplain, hdirectory, namesIn, hany, hname, Bool.not_true, Bool.false_eq_true,
    if_false, if_true, Bool.and_false, List.flatMap_cons, List.flatMap_nil, List.append_nil,
    List.mem_map, matching, List.mem_filter, Bool.and_eq_true] at hpath
  obtain ⟨name, ⟨_, _, hmatch⟩, rfl⟩ := hpath
  exact ⟨name, hmatch, rfl⟩

end Glob

/-- A pattern that begins with an ordinary character matches only texts that begin with it. -/
theorem exists_cons_of_matchesPattern {pattern text : String} {c : Char} {rest : List Char}
    (hpattern : pattern.toList = c :: rest) (hstar : c ≠ '*') (hquestion : c ≠ '?')
    (hbracket : c ≠ '[') (hmatch : matchesPattern pattern text = true) :
    ∃ others, text.toList = c :: others := by
  have hlength : pattern.length = rest.length + 1 := by
    rw [← String.length_toList, hpattern, List.length_cons]
  rw [matchesPattern, hpattern, hlength, Wildcard.ofPattern, if_neg hstar, if_neg hquestion,
    if_neg hbracket] at hmatch
  cases htext : text.toList with
  | nil => simp [htext, Wildcard.matchesText] at hmatch
  | cons d others =>
      simp only [htext, Wildcard.matchesText, Wildcard.fits, Bool.and_eq_true,
        decide_eq_true_eq] at hmatch
      exact ⟨others, by rw [hmatch.1]⟩

end Files

end MutationTesting
