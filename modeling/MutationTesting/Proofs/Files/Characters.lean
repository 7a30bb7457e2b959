import MutationTesting.Proofs.Files.Escape
import MutationTesting.Proofs.Files.ModuleBase
import MutationTesting.Proofs.Files.Ways

/-!
# The characters of paths

Paths that are made of other paths have their characters only, besides slashes and dots.

A pattern that ends with an ordinary character stands only for paths that end with it, and what a path
names has the last character of the path.  So what patterns with different endings stand for is
never the same file.
-/

namespace MutationTesting

/-! ## All characters -/

namespace Files.Path

/-- The names that remain when dots are carried out were there before, or lead up. -/
theorem forall_mem_collapse {P : String → Prop} (hup : P "..") {isRooted : Bool}
    {done names : List String} (hdone : ∀ name ∈ done, P name) (hnames : ∀ name ∈ names, P name) :
    ∀ name ∈ collapse isRooted done names, P name := by
  fun_induction collapse isRooted done names with
  | case1 done => exact fun name hname => hdone name (List.mem_reverse.mp hname)
  | case2 done first rest _ ih => exact ih hdone (List.forall_mem_cons.mp hnames).2
  | case3 rest _ ih =>
      refine ih ?_ (List.forall_mem_cons.mp hnames).2
      split
      · exact List.forall_mem_nil P
      · exact List.forall_mem_singleton.mpr hup
  | case4 rest before _ ih =>
      exact ih (List.forall_mem_cons.mpr ⟨hup, hdone⟩) (List.forall_mem_cons.mp hnames).2
  | case5 rest last before _ _ ih =>
      exact ih (List.forall_mem_cons.mp hdone).2 (List.forall_mem_cons.mp hnames).2
  | case6 done first rest _ _ ih =>
      obtain ⟨hfirst, hrest⟩ := List.forall_mem_cons.mp hnames
      exact ih (List.forall_mem_cons.mpr ⟨hfirst, hdone⟩) hrest

theorem mem_of_mem_dropCommon {left right : List String} {name : String}
    (hname : name ∈ (dropCommon left right).2) : name ∈ right := by
  obtain ⟨common, -, hright⟩ := dropCommon_eq_append left right
  rw [hright]
  exact List.mem_append_right common hname

section Characters

variable {c : Char} (hslash : c ≠ '/') (hdot : c ≠ '.')

theorem not_mem_segment {path : Path} (hpath : c ∉ path.toList) {name : String}
    (hname : name ∈ segments path) : c ∉ name.toList :=
  fun hc => hpath (Text.mem_of_mem_pieces hname hc)

include hslash

theorem not_mem_slash : c ∉ "/".toList := by simpa using hslash

theorem not_mem_join {base path : Path} (hbase : c ∉ base.toList) (hpath : c ∉ path.toList) :
    c ∉ (join base path).toList := by
  rw [join]
  split
  · exact hpath
  · split <;> simp [hbase, hpath, hslash]

theorem not_mem_intercalate {texts : List String} (htexts : ∀ text ∈ texts, c ∉ text.toList) :
    c ∉ (String.intercalate "/" texts).toList := by
  intro hc
  rcases Text.mem_toList_intercalate hc with hc | ⟨text, htext, hc⟩
  · exact not_mem_slash hslash hc
  · exact htexts text htext hc

theorem not_mem_leadingSlashes (path : Path) : c ∉ (leadingSlashes path).toList := by
  rw [leadingSlashes]
  split
  · simpa using hslash
  · split <;> simp [hslash]

omit hslash in
theorem not_mem_parent {path : Path} (hpath : c ∉ path.toList) : c ∉ (parent path).toList := by
  have hhead : c ∉ path.toList.take (path.length - (baseName path).length) :=
    fun hc => hpath (List.mem_of_mem_take hc)
  unfold parent
  dsimp only
  rw [String.toList_ofList]
  split
  · exact hhead
  · intro hc
    exact hhead (List.mem_reverse.mp ((List.dropWhile_sublist _).subset (List.mem_reverse.mp hc)))

include hdot

theorem not_mem_normalize {path : Path} (hpath : c ∉ path.toList) :
    c ∉ (normalize path).toList := by
  have hnames : ∀ name ∈ collapse (isAbsolute path) [] (segments path), c ∉ name.toList := by
    refine forall_mem_collapse (by simpa using hdot) (List.forall_mem_nil _) fun name hname => ?_
    exact not_mem_segment hpath hname
  unfold normalize
  dsimp only
  split
  · simpa using hdot
  · rw [String.toList_append, List.mem_append, not_or]
    exact ⟨not_mem_leadingSlashes hslash path, not_mem_intercalate hslash hnames⟩

theorem not_mem_absolute {directory path : Path} (hdirectory : c ∉ directory.toList)
    (hpath : c ∉ path.toList) : c ∉ (absolute directory path).toList :=
  not_mem_normalize hslash hdot (not_mem_join hslash hdirectory hpath)

theorem not_mem_relative {target : Path} (htarget : c ∉ target.toList) (start : Path) :
    c ∉ (relative target start).toList := by
  have hsteps : ∀ step ∈ (dropCommon (names start) (names target)).1.map (fun _ => "..") ++
      (dropCommon (names start) (names target)).2, c ∉ step.toList := by
    intro step hstep
    rcases List.mem_append.mp hstep with hup | hdown
    · obtain ⟨-, -, rfl⟩ := List.mem_map.mp hup
      simpa using hdot
    · exact not_mem_segment htarget (List.mem_filter.mp (mem_of_mem_dropCommon hdown)).1
  unfold relative
  dsimp only
  split
  · simpa using hdot
  · exact not_mem_intercalate hslash hsteps

end Characters

end Files.Path

/-! ## The last character of a name -/

namespace Text

theorem exists_splitAt_of_getLast? {separator c : Char} {text : List Char}
    (htext : text.getLast? = some c) (hc : c ≠ separator) :
    ∃ before last, splitAt separator text = before ++ [last] ∧ last.getLast? = some c := by
  induction text with
  | nil => cases htext
  | cons d rest ih =>
      by_cases hrest : rest = []
      · rw [hrest, List.getLast?_singleton, Option.some.injEq] at htext
        subst hrest htext
        exact ⟨[], [d], by rw [splitAt, if_neg hc]; rfl, rfl⟩
      · rw [List.getLast?_cons_of_ne_nil hrest] at htext
        obtain ⟨before, last, hsplit, hlast⟩ := ih htext
        rw [splitAt, hsplit]
        split
        · exact ⟨[] :: before, last, rfl, hlast⟩
        · cases before with
          | nil =>
              have hnonempty : last ≠ [] := by
                rintro rfl
                cases hlast
              exact ⟨[], d :: last, rfl, by rwa [List.getLast?_cons_of_ne_nil hnonempty]⟩
          | cons first others => exact ⟨(d :: first) :: others, last, rfl, hlast⟩

end Text

namespace Files

variable {c : Char}

namespace Path

theorem getLast?_baseName {path : Path} (hpath : path.toList.getLast? = some c)
    (hc : c ≠ separator) : (baseName path).toList.getLast? = some c := by
  obtain ⟨before, last, hsplit, hlast⟩ := Text.exists_splitAt_of_getLast? hpath hc
  rw [baseName, segments, Text.pieces, hsplit, List.map_append, List.map_singleton,
    List.getLastD_concat, String.toList_ofList]
  exact hlast

theorem getLast?_join {name : Path} (base : Path) (hname : name.toList.getLast? = some c) :
    (join base name).toList.getLast? = some c := by
  have hmore : ∀ text : String, (text ++ name).toList.getLast? = some c := by
    intro text
    rw [String.toList_append, List.getLast?_append, hname, Option.some_or]
  rw [join]
  split
  · exact hname
  · split
    · exact hmore base
    · exact hmore (base ++ "/")

end Path

namespace Wildcard

theorem exists_of_matchesEnding {rest : List Char → Bool} {text : List Char}
    (hmatch : matchesEnding rest text = true) :
    ∃ before after, text = before ++ after ∧ rest after = true := by
  induction text with
  | nil => exact ⟨[], [], rfl, hmatch⟩
  | cons d others ih =>
      rw [matchesEnding, Bool.or_eq_true] at hmatch
      rcases hmatch with hhere | hlater
      · exact ⟨[], d :: others, rfl, hhere⟩
      · obtain ⟨before, after, rfl, hafter⟩ := ih hlater
        exact ⟨d :: before, after, rfl, hafter⟩

/-- What matches wildcards before a last character ends with the character. -/
theorem getLast?_of_matchesText {wildcards : List Wildcard} {text : List Char}
    (hmatch : matchesText (wildcards ++ [.exactly c]) text = true) : text.getLast? = some c := by
  induction wildcards generalizing text with
  | nil =>
      cases text with
      | nil => cases hmatch
      | cons d others =>
          simp only [List.nil_append, matchesText, fits, Bool.and_eq_true, decide_eq_true_eq,
            List.isEmpty_iff] at hmatch
          rw [hmatch.1, hmatch.2, List.getLast?_singleton]
  | cons w rest ih =>
      have hone : ∀ d others, text = d :: others →
          matchesText (rest ++ [.exactly c]) others = true → text.getLast? = some c := by
        rintro d others rfl hothers
        have hlast := ih hothers
        have hnonempty : others ≠ [] := by
          rintro rfl
          cases hlast
        rwa [List.getLast?_cons_of_ne_nil hnonempty]
      cases w with
      | anyText =>
          rw [List.cons_append, matchesText] at hmatch
          obtain ⟨before, after, rfl, hafter⟩ := exists_of_matchesEnding hmatch
          rw [List.getLast?_append, ih hafter, Option.some_or]
      | exactly | anyChar | oneOf =>
          cases text with
          | nil => cases hmatch
          | cons d others =>
              simp only [List.cons_append, matchesText, Bool.and_eq_true] at hmatch
              exact hone d others rfl hmatch.2

theorem exists_of_dropWhile {chars rest : List Char} {d : Char}
    (hdrop : chars.dropWhile (· != ']') = d :: rest) : ∃ before, chars = before ++ ']' :: rest := by
  induction chars with
  | nil => cases hdrop
  | cons first others ih =>
      by_cases hfirst : first = ']'
      · rw [hfirst, List.dropWhile_cons_of_neg (by simp)] at hdrop
        cases hdrop
        exact ⟨[], by rw [hfirst]; rfl⟩
      · rw [List.dropWhile_cons_of_pos (by simpa using hfirst)] at hdrop
        obtain ⟨before, rfl⟩ := ih hdrop
        exact ⟨first :: before, rfl⟩

/-- What follows brackets is what follows the one that closes them. -/
theorem exists_of_bracketBody? {chars body rest : List Char}
    (hbody : bracketBody? chars = some (body, rest)) : ∃ before, chars = before ++ ']' :: rest := by
  rw [bracketBody?.eq_def] at hbody
  split at hbody
  next _ mark unmarked hmark =>
  split at hbody
  next _ first inside hfirst =>
  have hunmarked : ∃ before, chars = before ++ unmarked := by
    split at hmark <;> cases hmark
    · exact ⟨['!'], rfl⟩
    · exact ⟨[], rfl⟩
  have hinside : ∃ before, unmarked = before ++ inside := by
    split at hfirst <;> cases hfirst
    · exact ⟨[']'], rfl⟩
    · exact ⟨[], rfl⟩
  split at hbody
  · cases hbody
  · next hdrop =>
    cases hbody
    obtain ⟨before, rfl⟩ := hunmarked
    obtain ⟨more, rfl⟩ := hinside
    obtain ⟨last, rfl⟩ := exists_of_dropWhile hdrop
    exact ⟨before ++ (more ++ last), by simp⟩

/-- A pattern that ends with an ordinary character has it as its last wildcard. -/
theorem exists_ofPattern_eq_concat {bound : Nat} {chars : List Char} (hbound : chars.length ≤ bound)
    (hchars : chars.getLast? = some c) (hplain : Glob.isWild c = false) (hc : c ≠ ']') :
    ∃ wildcards, ofPattern bound chars = wildcards ++ [.exactly c] := by
  induction bound generalizing chars with
  | zero =>
      rw [List.eq_nil_of_length_eq_zero (Nat.le_zero.mp hbound)] at hchars
      cases hchars
  | succ bound ih =>
      cases chars with
      | nil => cases hchars
      | cons d rest =>
          by_cases hrest : rest = []
          · rw [hrest, List.getLast?_singleton, Option.some.injEq] at hchars
            subst hrest hchars
            refine ⟨[], ?_⟩
            rw [Glob.ofPattern_cons_of_not_wild bound hplain, List.nil_append]
            cases bound <;> rfl
          · rw [List.getLast?_cons_of_ne_nil hrest] at hchars
            have hlength := Nat.le_of_succ_le_succ hbound
            -- Whatever the first character is, the last one is still there afterwards.
            obtain ⟨later, hlater⟩ := ih hlength hchars
            rw [ofPattern]
            split
            · exact ⟨.anyText :: later, by rw [hlater]; rfl⟩
            split
            · exact ⟨.anyChar :: later, by rw [hlater]; rfl⟩
            split
            · split
              · next body after hbody =>
                obtain ⟨before, rfl⟩ := exists_of_bracketBody? hbody
                have hafter : after.getLast? = some c := by
                  cases after with
                  | nil =>
                      rw [List.getLast?_concat, Option.some.injEq] at hchars
                      exact absurd hchars.symm hc
                  | cons => simpa [List.getLast?_append] using hchars
                have hshorter : after.length ≤ bound := by
                  simp only [List.length_append, List.length_cons] at hlength
                  omega
                obtain ⟨others, hothers⟩ := ih hshorter hafter
                exact ⟨bracket body :: others, by rw [hothers]; rfl⟩
              · exact ⟨.exactly '[' :: later, by rw [hlater]; rfl⟩
            · exact ⟨.exactly d :: later, by rw [hlater]; rfl⟩

end Wildcard

namespace Glob

variable {fs : FileSystem} {directoriesOnly : Bool} {pattern path : Path}

theorem getLast?_of_matchesPattern {name : String} (hpattern : pattern.toList.getLast? = some c)
    (hplain : isWild c = false) (hc : c ≠ ']') (hmatch : matchesPattern pattern name = true) :
    name.toList.getLast? = some c := by
  obtain ⟨wildcards, hwildcards⟩ :=
    Wildcard.exists_ofPattern_eq_concat (Nat.le_of_eq String.length_toList) hpattern hplain hc
  rw [matchesPattern, hwildcards] at hmatch
  exact Wildcard.getLast?_of_matchesText hmatch

theorem getLast?_of_mem_namesIn {directory name : Path}
    (hpattern : pattern.toList.getLast? = some c) (hplain : isWild c = false) (hc : c ≠ ']')
    (hname : name ∈ namesIn fs directoriesOnly directory pattern) :
    name.toList.getLast? = some c := by
  rw [namesIn] at hname
  split at hname
  · next hany =>
    rw [hany] at hpattern
    cases hpattern
    cases hplain
  split at hname
  · rw [matching, List.mem_filter, Bool.and_eq_true] at hname
    exact getLast?_of_matchesPattern hpattern hplain hc hname.2.2
  split at hname
  · next hempty =>
    rw [hempty] at hpattern
    cases hpattern
  split at hname
  · rw [List.mem_singleton.mp hname]
    exact hpattern
  · cases hname

/-- A pattern with an ordinary last character stands for paths that end with it. -/
theorem getLast?_of_mem_expand (hpattern : pattern.toList.getLast? = some c)
    (hplain : isWild c = false) (hc : c ≠ ']') (hslash : c ≠ Path.separator)
    (hpath : path ∈ expand fs pattern) : path.toList.getLast? = some c := by
  have hbase := Path.getLast?_baseName hpattern hslash
  rw [expand, expandFrom] at hpath
  dsimp only at hpath
  split at hpath
  · split at hpath
    · next hempty =>
      rw [hempty] at hbase
      cases hbase
    split at hpath
    · rw [List.mem_singleton.mp hpath]
      exact hpattern
    · cases hpath
  split at hpath
  · exact getLast?_of_mem_namesIn hbase hplain hc hpath
  · rw [List.mem_flatMap] at hpath
    obtain ⟨d, -, hd⟩ := hpath
    obtain ⟨name, hname, rfl⟩ := List.mem_map.mp hd
    exact Path.getLast?_join d (getLast?_of_mem_namesIn hbase hplain hc hname)

end Glob

namespace Store

/-- What is named by a last name has that name. -/
theorem Trail.exists_concat {s : Store} {here : Address} {names before : List String}
    {last : String} {links : List Address} {address : Address} {entry : Option Entry}
    (htrail : s.Trail false here names links address entry) (hnames : names = before ++ [last])
    (hlast : IsName last) : ∃ folder, address = folder ++ [last] := by
  induction htrail generalizing before with
  | arrive => simp at hnames
  | @stay here name _ _ _ _ hname _ ih =>
      rcases List.cons_eq_append_iff.mp hnames with ⟨rfl, hsame⟩ | ⟨more, rfl, hrest⟩
      · cases hsame
        exact absurd hname (by simp [hlast.1, hlast.2.1])
      · exact ih hrest
  | up _ ih =>
      rcases List.cons_eq_append_iff.mp hnames with ⟨rfl, hsame⟩ | ⟨more, rfl, hrest⟩
      · cases hsame
        exact absurd rfl hlast.2.2
      · exact ih hrest
  | @down here name _ _ _ _ _ _ hrest ih =>
      rcases List.cons_eq_append_iff.mp hnames with ⟨rfl, hsame⟩ | ⟨more, rfl, hlater⟩
      · cases hsame
        cases hrest
        exact ⟨here, rfl⟩
      · exact ih hlater
  | @stop here name _ _ _ _ =>
      rcases List.cons_eq_append_iff.mp hnames with ⟨rfl, hsame⟩ | ⟨more, rfl, hlater⟩
      · cases hsame
        exact ⟨here, rfl⟩
      · simp at hlater
  | @jump here name rest target _ _ _ _ _ hfollowed _ ih =>
      rcases List.cons_eq_append_iff.mp hnames with ⟨rfl, hsame⟩ | ⟨more, rfl, hlater⟩
      · cases hsame
        simp at hfollowed
      · have hsplit : Path.segments target ++ rest = Path.segments target ++ more ++ [last] := by
          rw [hlater, List.append_assoc]
        exact ih hsplit

end Store

/-- What a path names ends with the last character of the path. -/
theorem FileSystem.Names.exists_concat {fs : FileSystem} {path : Path} {address : Address}
    (hnames : fs.Names path address) (hpath : path.toList.getLast? = some c)
    (hslash : c ≠ Path.separator) (hdot : c ≠ '.') :
    ∃ folder name, address = folder ++ [name] ∧ name.toList.getLast? = some c := by
  obtain ⟨entry, hlocate⟩ := hnames
  obtain ⟨-, links, -, htrail⟩ := Store.locate_eq_ok_iff.mp hlocate
  obtain ⟨above, habove⟩ := Path.exists_segments_join fs.directory path
  obtain ⟨before, hbefore⟩ := Path.exists_segments_eq_concat path
  have hbase := Path.getLast?_baseName hpath hslash
  have hname : Store.IsName (Path.baseName path) := by
    refine ⟨?_, ?_, ?_⟩ <;> intro hsame <;> rw [hsame] at hbase
    · cases hbase
    · exact hdot (Option.some.inj hbase).symm
    · exact hdot (Option.some.inj hbase).symm
  rw [hbefore, ← List.append_assoc] at habove
  obtain ⟨folder, hfolder⟩ := htrail.exists_concat habove hname
  exact ⟨folder, _, hfolder, hbase⟩

end Files

end MutationTesting
