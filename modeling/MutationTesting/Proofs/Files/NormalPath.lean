import MutationTesting.Files.FileSystem
import MutationTesting.Proofs.Files.Pattern
import MutationTesting.Proofs.Files.Trail
import MutationTesting.Proofs.Text.Split

/-!
# Paths and their names

A normal path from the root on is the list of its names.  Joining, splitting and relating such paths
come to the same operations on lists.
-/

namespace MutationTesting

open Text (startsWith endsWith)

namespace Files

open MutationTesting.Files.FileSystem (pathOf)

namespace Path

/-- Whether a text is the name of something in a directory. -/
def IsComponent (name : String) : Prop := Store.IsName name ∧ separator ∉ name.toList

instance (name : String) : Decidable (IsComponent name) :=
  inferInstanceAs (Decidable (Store.IsName name ∧ separator ∉ name.toList))

namespace IsComponent

variable {name : String}

theorem ne_nil (hname : IsComponent name) : name.toList ≠ [] := by simpa using hname.1.1

theorem exists_cons (hname : IsComponent name) :
    ∃ c rest, name.toList = c :: rest ∧ ('/' == c) = false := by
  obtain ⟨c, rest, hchars⟩ := List.exists_cons_of_ne_nil hname.ne_nil
  refine ⟨c, rest, hchars, ?_⟩
  rw [beq_eq_false_iff_ne]
  rintro rfl
  exact hname.2 (by simp [hchars, separator])

theorem exists_concat (hname : IsComponent name) :
    ∃ c rest, name.toList = rest ++ [c] ∧ c ≠ '/' := by
  obtain ⟨c, hlast⟩ := Option.isSome_iff_exists.mp (List.getLast?_isSome.mpr hname.ne_nil)
  obtain ⟨rest, hchars⟩ := List.getLast?_eq_some_iff.mp hlast
  refine ⟨c, rest, hchars, ?_⟩
  rintro rfl
  exact hname.2 (by simp [hchars, separator])

end IsComponent

section Segments

variable {name left right path : String} {names : List String}

theorem segments_of_not_mem (hname : separator ∉ name.toList) : segments name = [name] :=
  Text.pieces_of_not_mem hname

theorem segments_append (left right : String) :
    segments (left ++ "/" ++ right) = segments left ++ segments right :=
  Text.pieces_append separator left right

theorem segments_append_of_not_mem {last : String} (hright : separator ∉ right.toList)
    (hleft : segments left = names ++ [last]) :
    segments (left ++ right) = names ++ [last ++ right] :=
  Text.pieces_append_of_not_mem hright hleft

theorem segments_slash (right : String) : segments ("/" ++ right) = "" :: segments right := by
  simpa [segments_of_not_mem] using segments_append "" right

theorem not_mem_of_mem_segments (hname : name ∈ segments path) : separator ∉ name.toList := by
  rw [segments, Text.pieces, List.mem_map] at hname
  obtain ⟨piece, hpiece, rfl⟩ := hname
  rw [String.toList_ofList]
  exact Text.not_mem_of_mem_splitAt hpiece

theorem segments_intercalate (hnonempty : names ≠ [])
    (hnames : ∀ name ∈ names, separator ∉ name.toList) :
    segments (String.intercalate "/" names) = names :=
  Text.pieces_intercalate hnonempty hnames

end Segments

theorem splitName_append (name : List Char) : (splitName name).1 ++ (splitName name).2 = name := by
  have hname : name.takeWhile (· == '.') ++ name.dropWhile (· == '.') = name :=
    List.takeWhile_append_dropWhile
  generalize hrest : name.dropWhile (· == '.') = rest at hname
  have hparts : rest.reverse.takeWhile (· != '.') ++ rest.reverse.dropWhile (· != '.') =
      rest.reverse := List.takeWhile_append_dropWhile
  rw [splitName, hrest]
  split
  · simp
  · next dot stem hstem =>
      have hdot : dot = '.' := by
        have hhead := List.head?_dropWhile_not (· != '.') rest.reverse
        rw [hstem] at hhead
        simpa using hhead
      rw [hstem, hdot] at hparts
      have hreversed := congrArg List.reverse hparts
      rw [List.reverse_reverse, List.reverse_append, List.reverse_cons,
        List.append_assoc] at hreversed
      refine Eq.trans ?_ hname
      rw [List.append_assoc]
      exact congrArg (name.takeWhile (· == '.') ++ ·) hreversed

section Collapse

variable {absolute : Bool} {done rest names : List String} {name : String}

theorem collapse_stay (hname : name = "" ∨ name = ".") :
    collapse absolute done (name :: rest) = collapse absolute done rest := by
  cases done <;> rw [collapse, if_pos hname]

theorem collapse_name (hname : Store.IsName name) :
    collapse absolute done (name :: rest) = collapse absolute (name :: done) rest := by
  cases done <;> rw [collapse, if_neg (by simp [hname.1, hname.2.1]), if_neg hname.2.2]

theorem isComponent_of_mem_collapse (hdone : ∀ name ∈ done, IsComponent name)
    (hnames : ∀ name ∈ names, separator ∉ name.toList) :
    ∀ name ∈ collapse true done names, IsComponent name := by
  induction names generalizing done with
  | nil =>
      intro name hname
      rw [collapse, List.mem_reverse] at hname
      exact hdone name hname
  | cons first rest ih =>
      have hrest : ∀ name ∈ rest, separator ∉ name.toList :=
        fun name hname => hnames name (List.mem_cons_of_mem first hname)
      rcases Store.name_cases first with hstay | rfl | hname
      · rw [collapse_stay hstay]
        exact ih hdone hrest
      · cases done with
        | nil =>
            rw [collapse, if_neg (by decide), if_pos rfl]
            exact ih (by simp) hrest
        | cons last before =>
            have hlast := hdone last List.mem_cons_self
            rw [collapse, if_neg (by decide), if_pos rfl, if_neg hlast.1.2.2]
            exact ih (fun name hname => hdone name (List.mem_cons_of_mem last hname)) hrest
      · rw [collapse_name hname]
        refine ih (fun name hmem => ?_) hrest
        rcases List.mem_cons.mp hmem with rfl | hmem
        · exact ⟨hname, hnames name List.mem_cons_self⟩
        · exact hdone name hmem

theorem collapse_of_isComponent (hnames : ∀ name ∈ names, IsComponent name) :
    collapse absolute done names = done.reverse ++ names := by
  induction names generalizing done with
  | nil => rw [collapse, List.append_nil]
  | cons first rest ih =>
      rw [collapse_name (hnames first List.mem_cons_self).1,
        ih fun name hname => hnames name (List.mem_cons_of_mem first hname), List.reverse_cons,
        List.append_assoc, List.singleton_append]

end Collapse

section Normal

variable {path directory : Path} {address dirs place : Address} {name last : String}

theorem pathOf_append (hdirs : dirs ≠ []) (hplace : place ≠ []) :
    pathOf (dirs ++ place) = pathOf dirs ++ "/" ++ String.intercalate "/" place := by
  rw [pathOf, pathOf, String.intercalate_append_of_ne_nil hdirs hplace, ← String.append_assoc,
    ← String.append_assoc]

theorem isComponent_concat_iff :
    (∀ name ∈ dirs ++ [last], IsComponent name) ↔
      (∀ name ∈ dirs, IsComponent name) ∧ IsComponent last := by
  rw [List.forall_mem_append, List.forall_mem_singleton]

/-- The path of an address does not end with a slash, except for the root. -/
theorem exists_toList_pathOf (hnonempty : address ≠ [])
    (haddress : ∀ name ∈ address, IsComponent name) :
    ∃ text c, (pathOf address).toList = text ++ [c] ∧ c ≠ '/' := by
  obtain ⟨last, hlast⟩ := Option.isSome_iff_exists.mp (List.getLast?_isSome.mpr hnonempty)
  obtain ⟨before, rfl⟩ := List.getLast?_eq_some_iff.mp hlast
  obtain ⟨c, rest, hchars, hc⟩ := (haddress last (by simp)).exists_concat
  by_cases hbefore : before = []
  · exact ⟨'/' :: rest, c, by simp [hbefore, pathOf, hchars], hc⟩
  · refine ⟨(pathOf before).toList ++ '/' :: rest, c, ?_, hc⟩
    rw [pathOf_append hbefore (by simp), String.intercalate_singleton]
    simp [hchars]

theorem segments_pathOf (hnonempty : address ≠ [])
    (haddress : ∀ name ∈ address, IsComponent name) :
    segments (pathOf address) = "" :: address := by
  rw [pathOf, segments_slash,
    segments_intercalate hnonempty fun name hname => (haddress name hname).2]

theorem isAbsolute_pathOf (address : Address) : isAbsolute (pathOf address) = true := by
  simp [isAbsolute, pathOf, startsWith]

theorem leadingSlashes_pathOf (haddress : ∀ name ∈ address, IsComponent name) :
    leadingSlashes (pathOf address) = "/" := by
  have hsingle : startsWith "//" (pathOf address) = false := by
    cases address with
    | nil => decide
    | cons first rest =>
        obtain ⟨others, hothers⟩ := Text.exists_intercalate_cons "/" first rest
        obtain ⟨c, chars, hchars, hc⟩ := (haddress first List.mem_cons_self).exists_cons
        rw [startsWith, pathOf, String.toList_append, hothers, hchars]
        simp [List.isPrefixOf, hc]
  have habsolute := isAbsolute_pathOf address
  rw [isAbsolute] at habsolute
  simp [leadingSlashes, hsingle, habsolute]

theorem normalize_pathOf (haddress : ∀ name ∈ address, IsComponent name) :
    normalize (pathOf address) = pathOf address := by
  rw [normalize, leadingSlashes_pathOf haddress, isAbsolute_pathOf]
  have hcollapse : collapse true [] (segments (pathOf address)) = address := by
    cases address with
    | nil => decide
    | cons first rest =>
        rw [segments_pathOf (List.cons_ne_nil first rest) haddress, collapse_stay (Or.inl rfl),
          collapse_of_isComponent haddress]
        rfl
  have hnonempty : "/" ++ String.intercalate "/" address ≠ "" := by simp
  rw [hcollapse, if_neg hnonempty]
  rfl

theorem absolute_pathOf (directory : Path) (haddress : ∀ name ∈ address, IsComponent name) :
    absolute directory (pathOf address) = pathOf address := by
  rw [absolute, join_absolute (isAbsolute_pathOf address), normalize_pathOf haddress]

theorem names_of_segments (slashes : List String) (hslashes : ∀ name ∈ slashes, name = "")
    (hsegments : segments path = slashes ++ address)
    (haddress : ∀ name ∈ address, IsComponent name) : names path = address := by
  have hblank : slashes.filter (· ≠ "") = [] := by
    rw [List.filter_eq_nil_iff]
    intro name hname
    simp [hslashes name hname]
  have hkept : address.filter (· ≠ "") = address := by
    rw [List.filter_eq_self]
    intro name hname
    simp [(haddress name hname).1.1]
  rw [names, hsegments, List.filter_append, hblank, hkept, List.nil_append]

theorem names_pathOf (haddress : ∀ name ∈ address, IsComponent name) :
    names (pathOf address) = address := by
  cases address with
  | nil => decide
  | cons first rest =>
      exact names_of_segments [""] (by simp)
        (segments_pathOf (List.cons_ne_nil first rest) haddress) haddress

theorem leadingSlashes_of_isAbsolute (hpath : isAbsolute path = true) :
    leadingSlashes path = "/" ∨ leadingSlashes path = "//" := by
  rw [isAbsolute] at hpath
  rw [leadingSlashes, hpath]
  split
  · exact Or.inr rfl
  · exact Or.inl rfl

/-- A normal path from the root on has ordinary names only. -/
theorem isComponent_of_mem_names_normalize (hpath : isAbsolute path = true) :
    ∀ name ∈ names (normalize path), IsComponent name := by
  have hcomponents : ∀ name ∈ collapse true [] (segments path), IsComponent name :=
    isComponent_of_mem_collapse (by simp) fun name => not_mem_of_mem_segments
  have hnames : names (normalize path) = collapse true [] (segments path) := by
    rw [normalize, hpath]
    generalize collapse true [] (segments path) = address at hcomponents ⊢
    rcases leadingSlashes_of_isAbsolute hpath with hslash | hslash <;> rw [hslash]
    · rw [if_neg (by simp)]
      cases address with
      | nil => decide
      | cons first rest =>
          refine names_of_segments [""] (by simp) ?_ hcomponents
          exact segments_pathOf (List.cons_ne_nil first rest) hcomponents
    · rw [if_neg (by simp)]
      cases address with
      | nil => decide
      | cons first rest =>
          refine names_of_segments ["", ""] (by simp) ?_ hcomponents
          have hpieces := segments_pathOf (List.cons_ne_nil first rest) hcomponents
          rw [show "//" = "/" ++ "/" from rfl, String.append_assoc, segments_slash]
          exact congrArg (List.cons "") hpieces
  rw [hnames]
  exact hcomponents

theorem isComponent_of_mem_names_absolute (hdirectory : isAbsolute directory = true) (path : Path) :
    ∀ name ∈ names (absolute directory path), IsComponent name :=
  isComponent_of_mem_names_normalize (isAbsolute_join hdirectory)

theorem dropCommon_append (start place : List String) :
    dropCommon start (start ++ place) = ([], place) := by
  induction start with
  | nil => cases place <;> rfl
  | cons first rest ih => rw [List.cons_append, dropCommon, if_pos rfl, ih]

/-- A path below another one is reached from there by the names that it has more. -/
theorem relative_of_names {target start : Path} (hplace : place ≠ [])
    (hnames : names target = names start ++ place) :
    relative target start = String.intercalate "/" place := by
  rw [relative, hnames, dropCommon_append]
  simp [hplace]

/-- The text of some names begins with two dots just when the first of them does. -/
theorem startsWith_dots_intercalate {first : String} {rest : List String}
    (hfirst : IsComponent first) :
    startsWith ".." (String.intercalate "/" (first :: rest)) = startsWith ".." first := by
  by_cases hrest : rest = []
  · rw [hrest, String.intercalate_singleton]
  · have htext : (String.intercalate "/" (first :: rest)).toList =
        first.toList ++ '/' :: (String.intercalate "/" rest).toList := by
      rw [String.intercalate_cons_of_ne_nil hrest]
      simp
    have hstay : first.toList ≠ ['.'] := by
      intro hdot
      exact hfirst.1.2.1 (by rw [← String.ofList_toList (s := first), hdot])
    rw [startsWith, startsWith, htext]
    cases hchars : first.toList with
    | nil => exact absurd hchars hfirst.ne_nil
    | cons c chars =>
        cases chars with
        | nil =>
            have hc : ('.' == c) = false := by
              rw [beq_eq_false_iff_ne]
              rintro rfl
              exact hstay hchars
            simp [List.isPrefixOf, hc]
        | cons d more => simp [List.isPrefixOf]

theorem isAbsolute_intercalate (hplace : ∀ name ∈ place, IsComponent name) :
    isAbsolute (String.intercalate "/" place) = false := by
  cases place with
  | nil => decide
  | cons first rest =>
      obtain ⟨others, hothers⟩ := Text.exists_intercalate_cons "/" first rest
      obtain ⟨c, chars, hchars, hc⟩ := (hplace first List.mem_cons_self).exists_cons
      rw [isAbsolute, startsWith, hothers, hchars]
      simp [List.isPrefixOf, hc]

theorem join_pathOf (haddress : ∀ name ∈ address, IsComponent name)
    (hplace : ∀ name ∈ place, IsComponent name) (hsome : place ≠ []) :
    join (pathOf address) (String.intercalate "/" place) = pathOf (address ++ place) := by
  have hrelative := isAbsolute_intercalate hplace
  by_cases hnonempty : address = []
  · have hroot : pathOf [] = "/" := rfl
    have hend : endsWith "/" "/" = true := by decide
    rw [hnonempty, List.nil_append, hroot, join, hrelative, if_neg (by decide), if_pos hend, pathOf]
  · obtain ⟨text, c, htext, hc⟩ := exists_toList_pathOf hnonempty haddress
    have hend : endsWith "/" (pathOf address) = false := by
      rw [endsWith, htext, List.isSuffixOf, Bool.eq_false_iff]
      simp [List.isPrefixOf, Ne.symm hc]
    rw [join_eq (by simp [pathOf]) hend hrelative, pathOf_append hnonempty hsome]

theorem join_pathOf_name (hdirs : ∀ name ∈ dirs, IsComponent name) (hlast : IsComponent last) :
    join (pathOf dirs) last = pathOf (dirs ++ [last]) := by
  have hjoin := join_pathOf hdirs (List.forall_mem_singleton.mpr hlast) (List.cons_ne_nil last [])
  rwa [String.intercalate_singleton] at hjoin

theorem baseName_pathOf (hdirs : ∀ name ∈ dirs, IsComponent name) (hlast : IsComponent last) :
    baseName (pathOf (dirs ++ [last])) = last := by
  have hall := isComponent_concat_iff.mpr ⟨hdirs, hlast⟩
  rw [baseName, segments_pathOf (by simp) hall, ← List.cons_append, List.getLastD_concat]

theorem parent_pathOf (hdirs : ∀ name ∈ dirs, IsComponent name) (hlast : IsComponent last) :
    parent (pathOf (dirs ++ [last])) = pathOf dirs := by
  -- the path before the last name, with its slash
  have hparent : ∀ head : List Char, (pathOf (dirs ++ [last])).toList = head ++ last.toList →
      parent (pathOf (dirs ++ [last])) =
        String.ofList (if (head.reverse.dropWhile (· == separator)).reverse.isEmpty then head
          else (head.reverse.dropWhile (· == separator)).reverse) := by
    intro head hwhole
    have hlength : (pathOf (dirs ++ [last])).length - last.length = head.length := by
      rw [← String.length_toList, hwhole, List.length_append, ← String.length_toList]
      omega
    rw [parent, baseName_pathOf hdirs hlast, hlength, hwhole, List.take_left]
  by_cases hnonempty : dirs = []
  · rw [hparent ['/'] (by simp [hnonempty, pathOf]), hnonempty]
    rfl
  · obtain ⟨text, c, htext, hc⟩ := exists_toList_pathOf hnonempty hdirs
    have htrimmed : ((text ++ [c, '/']).reverse.dropWhile (· == separator)).reverse =
        text ++ [c] := by
      simp [separator, hc]
    rw [hparent (text ++ [c, '/']), htrimmed, if_neg (by simp), ← htext, String.ofList_toList]
    rw [pathOf_append hnonempty (by simp), String.intercalate_singleton]
    simp [htext]

theorem pathOf_concat_append (dirs : Address) (last suffix : String) :
    pathOf (dirs ++ [last]) ++ suffix = pathOf (dirs ++ [last ++ suffix]) := by
  by_cases hdirs : dirs = []
  · simp [hdirs, pathOf, String.append_assoc]
  · rw [pathOf_append hdirs (by simp), pathOf_append hdirs (by simp),
      String.intercalate_singleton, String.intercalate_singleton, String.append_assoc]

/-- A path that is seen from a directory as the path of an address is not empty. -/
theorem ne_empty_of_join_eq (hdirectory : isAbsolute directory = true) (hnonempty : address ≠ [])
    (haddress : ∀ name ∈ address, IsComponent name)
    (hjoin : join directory path = pathOf address) : path ≠ "" := by
  rintro rfl
  have hsome : directory ≠ "" := by
    rintro rfl
    cases hdirectory
  have hslash : endsWith "/" (pathOf address) = true := by
    rw [← hjoin, join, if_neg (by simpa using ⟨by decide, hsome⟩)]
    split
    · next hend => simpa using hend
    · simp [endsWith]
  obtain ⟨text, c, htext, hc⟩ := exists_toList_pathOf hnonempty haddress
  rw [endsWith, htext, List.isSuffixOf] at hslash
  simp [List.isPrefixOf, Ne.symm hc] at hslash

/-- More text at the end of a path is more text at the end of what it is seen as. -/
theorem join_append (hpath : path ≠ "") (directory suffix : String) :
    join directory (path ++ suffix) = join directory path ++ suffix := by
  obtain ⟨c, rest, hchars⟩ := List.exists_cons_of_ne_nil (l := path.toList) (by simpa using hpath)
  have habsolute : isAbsolute (path ++ suffix) = isAbsolute path := by
    rw [isAbsolute, isAbsolute, startsWith, startsWith, String.toList_append, hchars]
    simp [List.isPrefixOf]
  rw [join, join, habsolute]
  split
  · rfl
  · split
    · rw [String.append_assoc]
    · rw [← String.append_assoc]

end Normal

end Path

end Files

end MutationTesting
