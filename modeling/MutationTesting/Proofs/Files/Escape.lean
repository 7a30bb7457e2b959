import Mathlib.Data.List.Induction
import MutationTesting.Proofs.Files.NormalPath

/-!
# Escaped patterns

An escaped text is a pattern that matches nothing but the text.  So an escaped path stands for
itself, and a pattern below it for files in one directory.
-/

namespace MutationTesting.Files

open MutationTesting.Files.FileSystem (pathOf)
open MutationTesting.Files.Path (IsComponent)

namespace Glob

def isWild (c : Char) : Bool := c == '*' || c == '?' || c == '['

/-- The characters of an escaped text. -/
def escapedChars (chars : List Char) : List Char :=
  chars.flatMap fun c => if isWild c then ['[', c, ']'] else [c]

section Texts

variable {text left right : String}

theorem toList_escape (text : String) : (escape text).toList = escapedChars text.toList := by
  rw [escape, String.toList_ofList]
  rfl

theorem hasWildcard_eq (text : String) : hasWildcard text = text.toList.any isWild := rfl

theorem escapedChars_of_not_wild {chars : List Char} (hplain : chars.any isWild = false) :
    escapedChars chars = chars := by
  induction chars with
  | nil => rfl
  | cons c rest ih =>
      rw [List.any_cons, Bool.or_eq_false_iff] at hplain
      rw [escapedChars, List.flatMap_cons, hplain.1]
      exact congrArg (List.cons c) (ih hplain.2)

theorem any_isWild_escapedChars (chars : List Char) :
    (escapedChars chars).any isWild = chars.any isWild := by
  induction chars with
  | nil => rfl
  | cons c rest ih =>
      rw [escapedChars, List.flatMap_cons, List.any_append, List.any_cons]
      rw [escapedChars] at ih
      rw [ih]
      cases hc : isWild c with
      | false => simp [hc]
      | true =>
          have hbracket : isWild '[' = true := by decide
          simp [hbracket]

theorem hasWildcard_escape (text : String) : hasWildcard (escape text) = hasWildcard text := by
  rw [hasWildcard_eq, hasWildcard_eq, toList_escape, any_isWild_escapedChars]

theorem escape_of_not_hasWildcard (hplain : hasWildcard text = false) : escape text = text := by
  rw [← String.toList_inj, toList_escape]
  exact escapedChars_of_not_wild hplain

theorem escape_append (left right : String) :
    escape (left ++ right) = escape left ++ escape right := by
  rw [← String.toList_inj, toList_escape, String.toList_append, String.toList_append, toList_escape,
    toList_escape, escapedChars, List.flatMap_append]
  rfl

theorem escape_intercalate (names : List String) :
    escape (String.intercalate "/" names) = String.intercalate "/" (names.map escape) := by
  induction names with
  | nil => rfl
  | cons first rest ih =>
      by_cases hrest : rest = []
      · rw [hrest, List.map_singleton, String.intercalate_singleton, String.intercalate_singleton]
      · have hslash : escape "/" = "/" := escape_of_not_hasWildcard (by decide)
        rw [String.intercalate_cons_of_ne_nil hrest, List.map_cons,
          String.intercalate_cons_of_ne_nil (by simpa using hrest), escape_append, escape_append, ih,
          hslash]

theorem escape_pathOf (address : Address) :
    escape (pathOf address) = pathOf (address.map escape) := by
  have hslash : escape "/" = "/" := escape_of_not_hasWildcard (by decide)
  rw [pathOf, pathOf, escape_append, escape_intercalate, hslash]

theorem mem_escapedChars_iff {c : Char} {chars : List Char} (hopen : c ≠ '[') (hclose : c ≠ ']') :
    c ∈ escapedChars chars ↔ c ∈ chars := by
  rw [escapedChars, List.mem_flatMap]
  constructor
  · rintro ⟨d, hd, hc⟩
    split at hc
    · have : c = d := by simpa [hopen, hclose] using hc
      exact this ▸ hd
    · exact List.mem_singleton.mp hc ▸ hd
  · intro hc
    refine ⟨c, hc, ?_⟩
    split <;> simp

/-- Escaping leaves a text without wildcards, or makes one with a bracket. -/
theorem escape_eq_iff {other : String} (hother : '[' ∉ other.toList) :
    escape text = other ↔ text = other ∧ hasWildcard text = false := by
  cases hwild : hasWildcard text with
  | false => simp [escape_of_not_hasWildcard hwild]
  | true =>
      simp only [Bool.true_eq_false, and_false, iff_false]
      rintro rfl
      rw [hasWildcard_eq, List.any_eq_true] at hwild
      obtain ⟨c, hc, hwild⟩ := hwild
      apply hother
      rw [toList_escape, escapedChars, List.mem_flatMap]
      exact ⟨c, hc, by simp [hwild]⟩

theorem isComponent_escape (htext : IsComponent text) : IsComponent (escape text) := by
  refine ⟨⟨?_, ?_, ?_⟩, ?_⟩
  · intro hempty
    exact htext.1.1 ((escape_eq_iff (by simp)).mp hempty).1
  · intro hdot
    exact htext.1.2.1 ((escape_eq_iff (by simp)).mp hdot).1
  · intro hdots
    exact htext.1.2.2 ((escape_eq_iff (by simp)).mp hdots).1
  · rw [toList_escape, mem_escapedChars_iff (by decide) (by decide)]
    exact htext.2

end Texts

section Matching

open Wildcard (ofPattern matchesText fits)

theorem ofPattern_cons_of_not_wild {c : Char} {rest : List Char} (bound : Nat)
    (hc : isWild c = false) :
    ofPattern (bound + 1) (c :: rest) = .exactly c :: ofPattern bound rest := by
  simp only [isWild, Bool.or_eq_false_iff, beq_eq_false_iff_ne] at hc
  rw [ofPattern, if_neg hc.1.1, if_neg hc.1.2, if_neg hc.2]

theorem ofPattern_bracketed {c : Char} {rest : List Char} (bound : Nat) (hc : isWild c = true) :
    ofPattern (bound + 1) ('[' :: c :: ']' :: rest) =
      .oneOf false [Wildcard.single c] :: ofPattern bound rest := by
  simp only [isWild, Bool.or_eq_true, beq_iff_eq] at hc
  rcases hc with (rfl | rfl) | rfl <;>
    simp [ofPattern, Wildcard.bracketBody?, Wildcard.bracket, Wildcard.chunks, Wildcard.joinEmpty,
      Wildcard.spansOf]

theorem fits_single {c d : Char} : fits d (.oneOf false [Wildcard.single c]) = true ↔ d = c := by
  simp only [fits, Wildcard.single, Span.contains, List.any_cons, List.any_nil, Bool.or_false,
    Bool.bne_false, Bool.and_eq_true, decide_eq_true_eq]
  exact ⟨fun hboth => Char.le_antisymm hboth.2 hboth.1, fun heq => by simp [heq]⟩

theorem eq_of_matches_escapedChars {chars candidate : List Char} {bound : Nat}
    (hbound : (escapedChars chars).length ≤ bound)
    (hmatch : matchesText (ofPattern bound (escapedChars chars)) candidate = true) :
    candidate = chars := by
  induction chars generalizing bound candidate with
  | nil =>
      have hnone : ofPattern bound (escapedChars []) = [] := by cases bound <;> rfl
      rw [hnone, matchesText, List.isEmpty_iff] at hmatch
      exact hmatch
  | cons c rest ih =>
      rw [escapedChars, List.flatMap_cons, List.length_append] at hbound
      rw [escapedChars, List.flatMap_cons] at hmatch
      cases hc : isWild c with
      | false =>
          simp only [hc, Bool.false_eq_true, if_false, List.length_singleton] at hbound
          obtain ⟨bound, rfl⟩ : ∃ less, bound = less + 1 := ⟨bound - 1, by omega⟩
          simp only [hc, Bool.false_eq_true, if_false, List.singleton_append] at hmatch
          rw [ofPattern_cons_of_not_wild bound hc] at hmatch
          cases candidate with
          | nil => simp [matchesText] at hmatch
          | cons d others =>
              simp only [matchesText, fits, Bool.and_eq_true, decide_eq_true_eq] at hmatch
              rw [hmatch.1, @ih _ bound (by rw [escapedChars]; omega) hmatch.2]
      | true =>
          simp only [hc, if_true, List.length_cons, List.length_nil] at hbound
          obtain ⟨bound, rfl⟩ : ∃ less, bound = less + 1 := ⟨bound - 1, by omega⟩
          simp only [hc, if_true, List.cons_append, List.nil_append] at hmatch
          rw [ofPattern_bracketed bound hc] at hmatch
          cases candidate with
          | nil => simp [matchesText] at hmatch
          | cons d others =>
              simp only [matchesText, Bool.and_eq_true, fits_single] at hmatch
              rw [hmatch.1, @ih _ bound (by rw [escapedChars]; omega) hmatch.2]

/-- An escaped text matches the text only. -/
theorem eq_of_matchesPattern_escape {text candidate : String}
    (hmatch : matchesPattern (escape text) candidate = true) : candidate = text := by
  rw [matchesPattern, toList_escape] at hmatch
  rw [← String.toList_inj]
  have hlength : (escapedChars text.toList).length = (escape text).length := by
    rw [← String.length_toList, toList_escape]
  exact eq_of_matches_escapedChars (Nat.le_of_eq hlength) hmatch

end Matching

section Expanding

variable {fs : FileSystem} {directoriesOnly : Bool} {dirs : Address} {last pattern path : String}

/-- A pattern below an escaped directory stands for names in that directory. -/
theorem exists_of_mem_expandFrom {bound : Nat} (folder : Path)
    (hparent : Path.parent pattern = escape folder) (hfolder : escape folder ≠ "")
    (hdifferent : escape folder ≠ pattern)
    (hplain : ∀ bound, ∀ d ∈ expandFrom fs bound true (escape folder), d = folder)
    (hpattern : hasWildcard pattern = true)
    (hpath : path ∈ expandFrom fs (bound + 1) directoriesOnly pattern) :
    ∃ name ∈ namesIn fs directoriesOnly folder (Path.baseName pattern),
      path = Path.join folder name := by
  rw [expandFrom, hparent] at hpath
  simp only [hpattern, Bool.not_true, Bool.false_eq_true, if_false, hfolder, ne_eq, hdifferent,
    not_false_eq_true, decide_true, Bool.true_and, List.mem_flatMap, List.mem_map] at hpath
  obtain ⟨d, hd, name, hname, rfl⟩ := hpath
  have hsame : d = folder := by
    split at hd
    · exact hplain bound d hd
    · next hwild =>
        rw [List.mem_singleton] at hd
        rw [hd]
        exact escape_of_not_hasWildcard (by simpa [hasWildcard_escape] using hwild)
  exact ⟨name, hsame ▸ hname, hsame ▸ rfl⟩

theorem eq_of_mem_namesIn_escape {folder name : Path} (hlast : IsComponent last)
    (hname : name ∈ namesIn fs directoriesOnly folder (escape last)) : name = last := by
  have hany : escape last ≠ anyDirectories := by
    intro hstars
    obtain ⟨rfl, hplain⟩ := (escape_eq_iff (by decide)).mp hstars
    revert hplain
    decide
  rw [namesIn, if_neg hany, hasWildcard_escape] at hname
  split at hname
  · rw [matching, List.mem_filter, Bool.and_eq_true] at hname
    exact eq_of_matchesPattern_escape hname.2.2
  · next hplain =>
      rw [escape_of_not_hasWildcard (by simpa using hplain), if_neg hlast.1.1] at hname
      split at hname
      · exact List.mem_singleton.mp hname
      · cases hname

theorem pathOf_ne_concat (hdirs : ∀ name ∈ dirs, IsComponent name) (hlast : IsComponent last) :
    pathOf dirs ≠ pathOf (dirs ++ [last]) := by
  intro hsame
  have hnames := congrArg Path.names hsame
  rw [Path.names_pathOf hdirs,
    Path.names_pathOf (Path.isComponent_concat_iff.mpr ⟨hdirs, hlast⟩)] at hnames
  simp at hnames

/-- An escaped path stands for itself at most. -/
theorem eq_of_mem_expandFrom_escape {bound : Nat} (hdirs : ∀ name ∈ dirs, IsComponent name)
    (hpath : path ∈ expandFrom fs bound directoriesOnly (escape (pathOf dirs))) :
    path = pathOf dirs := by
  induction dirs using List.reverseRecOn generalizing bound directoriesOnly path with
  | nil =>
      have hroot : escape (pathOf []) = "/" := by decide
      have hbase : Path.baseName "/" = "" := by decide
      have hplain : hasWildcard "/" = false := by decide
      rw [hroot] at hpath
      cases bound with
      | zero => cases hpath
      | succ bound =>
          rw [expandFrom, hplain, hbase] at hpath
          simp only [Bool.not_false, if_true] at hpath
          split at hpath
          · exact List.mem_singleton.mp hpath
          · cases hpath
  | append_singleton dirs last ih =>
      obtain ⟨hbefore, hlast⟩ := Path.isComponent_concat_iff.mp hdirs
      have hescaped : ∀ name ∈ dirs.map escape, IsComponent name := by
        simpa using fun name hname => isComponent_escape (hbefore name hname)
      have htext : escape (pathOf (dirs ++ [last])) =
          pathOf (dirs.map escape ++ [escape last]) := by
        rw [escape_pathOf, List.map_append, List.map_singleton]
      cases bound with
      | zero => cases hpath
      | succ bound =>
          cases hwild : hasWildcard (pathOf (dirs ++ [last])) with
          | false =>
              rw [escape_of_not_hasWildcard hwild, expandFrom, hwild] at hpath
              simp only [Bool.not_false, if_true] at hpath
              split at hpath <;> split at hpath <;> first
                | exact List.mem_singleton.mp hpath
                | cases hpath
          | true =>
              obtain ⟨name, hname, rfl⟩ := exists_of_mem_expandFrom (pathOf dirs)
                (by
                  rw [htext, Path.parent_pathOf hescaped (isComponent_escape hlast), escape_pathOf])
                (by rw [escape_pathOf, pathOf]; simp)
                (by
                  rw [htext, escape_pathOf]
                  exact pathOf_ne_concat hescaped (isComponent_escape hlast))
                (fun _ d hd => ih hbefore hd) (by rwa [hasWildcard_escape]) hpath
              rw [htext, Path.baseName_pathOf hescaped (isComponent_escape hlast)] at hname
              rw [eq_of_mem_namesIn_escape hlast hname]
              exact Path.join_pathOf_name hbefore hlast

/-- A pattern with one directory name and a file name below an escaped path stands for files in that
one directory. -/
theorem exists_of_mem_expand {folder pattern : String} (hdirs : ∀ name ∈ dirs, IsComponent name)
    (hfolder : IsComponent folder) (hplain : hasWildcard folder = false)
    (hpattern : IsComponent pattern) (hwild : hasWildcard pattern = true)
    (hany : pattern ≠ anyDirectories)
    (hpath : path ∈ expand fs (Path.join (Path.join (escape (pathOf dirs)) folder) pattern)) :
    ∃ name ∈ fs.names (pathOf (dirs ++ [folder])),
      (isHidden pattern = true ∨ isHidden name = false) ∧ matchesPattern pattern name = true ∧
        path = Path.join (pathOf (dirs ++ [folder])) name := by
  have hescaped : ∀ name ∈ dirs.map escape, IsComponent name := by
    simpa using fun name hname => isComponent_escape (hdirs name hname)
  have hbelow := Path.isComponent_concat_iff.mpr ⟨hescaped, hfolder⟩
  have hall := Path.isComponent_concat_iff.mpr ⟨hdirs, hfolder⟩
  have hfirst := Path.join_pathOf_name hescaped hfolder
  have hsecond := Path.join_pathOf_name hbelow hpattern
  have hescape : escape (pathOf (dirs ++ [folder])) = pathOf (dirs.map escape ++ [folder]) := by
    rw [escape_pathOf, List.map_append, List.map_singleton, escape_of_not_hasWildcard hplain]
  have hmore : hasWildcard (pathOf (dirs.map escape ++ [folder] ++ [pattern])) = true := by
    rw [hasWildcard_eq] at hwild ⊢
    rw [Path.pathOf_append (by simp) (by simp), String.intercalate_singleton]
    simp [hwild]
  rw [escape_pathOf, hfirst, hsecond, expand] at hpath
  obtain ⟨name, hname, rfl⟩ := exists_of_mem_expandFrom (pathOf (dirs ++ [folder]))
    (by rw [Path.parent_pathOf hbelow hpattern, hescape]) (by rw [hescape, pathOf]; simp)
    (by rw [hescape]; exact pathOf_ne_concat hbelow hpattern)
    (fun _ d hd => eq_of_mem_expandFrom_escape hall hd) hmore hpath
  rw [Path.baseName_pathOf hbelow hpattern, namesIn, if_neg hany, if_pos hwild, matching,
    List.mem_filter, listed, List.mem_filter, if_neg (by simp [pathOf]), Bool.and_eq_true] at hname
  exact ⟨name, hname.1.1, by simpa using hname.2.1, hname.2.2, rfl⟩

end Expanding

end Glob

end MutationTesting.Files
