import Mathlib.Data.List.Induction
import MutationTesting.Proofs.Files.Inside
import MutationTesting.Proofs.Files.Listing

/-!
# Directories without links

Below a directory that holds directories and regular files only, the names of a file lead to it and
nowhere else.
-/

namespace MutationTesting.Files

namespace Contents

/-- Whether a directory holds directories and regular files only. -/
structure IsRegular (c : Contents) : Prop where
  above : ∀ place name entry, c (place ++ [name]) = some entry → c place = some .directory
  no_links : ∀ place target, c place ≠ some (.link target)

variable {c : Contents} {here place : Address} {names : List String} {links : List Address}
variable {entry : Entry}

theorem IsRegular.directory (hregular : c.IsRegular) {rest : Address} (hrest : rest ≠ [])
    (hstored : c (here ++ rest) = some entry) : c here = some .directory := by
  induction rest using List.reverseRecOn generalizing entry with
  | nil => exact absurd rfl hrest
  | append_singleton front last ih =>
      rw [← List.append_assoc] at hstored
      have hfront := hregular.above _ _ _ hstored
      by_cases hempty : front = []
      · rwa [hempty, List.append_nil] at hfront
      · exact ih hempty hfront

/-- The names of a regular file lead straight to it. -/
theorem IsRegular.way (hregular : c.IsRegular) {content : Bytes} (hnonempty : names ≠ [])
    (hnames : ∀ name ∈ names, Store.IsName name)
    (hstored : c (here ++ names) = some (.file content)) :
    c.Way here names [] (here ++ names) (.file content) := by
  induction names generalizing here with
  | nil => exact absurd rfl hnonempty
  | cons name rest ih =>
      have hname := hnames name List.mem_cons_self
      by_cases hrest : rest = []
      · rw [hrest] at hstored ⊢
        exact .stop hname hstored
      · rw [List.append_cons] at hstored ⊢
        refine .down hname (hregular.directory hrest hstored) ?_
        exact ih hrest (fun other hother => hnames other (List.mem_cons_of_mem name hother)) hstored

/-- Where there are no links, names lead nowhere else. -/
theorem Way.place_eq (hway : c.Way here names links place entry)
    (hlinks : ∀ place target, c place ≠ some (.link target))
    (hnames : ∀ name ∈ names, Store.IsName name) : place = here ++ names := by
  induction hway with
  | arrive => exact (List.append_nil _).symm
  | stay hname _ _ =>
      obtain ⟨hempty, hpoint, -⟩ := hnames _ List.mem_cons_self
      exact (hname.elim hempty hpoint).elim
  | up _ _ _ => exact absurd rfl (hnames _ List.mem_cons_self).2.2
  | down _ _ _ ih =>
      rw [List.append_cons]
      exact ih fun name hname => hnames name (List.mem_cons_of_mem _ hname)
  | stop _ _ => rfl
  | jump _ hnext _ _ _ => exact absurd hnext (hlinks _ _)

theorem isComponent_of_inside {s : Store} {root : Address} (hdistinct : s.Distinct)
    (hnames : ∀ e ∈ s.entries, ∀ name ∈ e.1, Path.IsComponent name)
    (hstored : s.inside root place = some entry) : ∀ name ∈ place, Path.IsComponent name := by
  intro name hname
  have hmem := List.mem_append_right root hname
  have hentry := (Store.get?_eq_some_iff hdistinct (List.ne_nil_of_mem hmem)).mp hstored
  exact hnames _ hentry name hmem

theorem isRegular_inside {s : Store} {root : Address} (hdistinct : s.Distinct)
    (habove : ∀ e ∈ s.entries, s.get? e.1.dropLast = some .directory)
    (hlinks : ∀ e ∈ s.entries, ∀ target, e.2 ≠ .link target) : (s.inside root).IsRegular where
  above := by
    intro place name entry hstored
    rw [Store.inside, Store.get?_eq_some_iff hdistinct (by simp), ← List.append_assoc] at hstored
    have hdirectory := habove _ hstored
    rwa [List.dropLast_concat] at hdirectory
  no_links := by
    intro place target hstored
    rw [Store.inside] at hstored
    have hnonempty : root ++ place ≠ [] := by
      intro hempty
      rw [hempty] at hstored
      cases hstored
    exact hlinks _ ((Store.get?_eq_some_iff hdistinct hnonempty).mp hstored) target rfl

end Contents

namespace Store

open MutationTesting.Files.Path (IsComponent)
open FileSystem (pathOf)

section Paths

variable {s : Store} {followsLast : Bool} {base directory path : Path} {root place : Address}
variable {above names dirs : List String} {name : String} {entry : Option Entry}

/-- The names of a directory lead to it, over whatever links. -/
theorem exists_trail_of_locate_pathOf (habove : ∀ name ∈ above, IsComponent name)
    (hroot : s.locate true base (pathOf above) = .ok (root, some .directory)) :
    ∃ links, links.length ≤ maxLinks ∧ s.Trail true [] above links root (some .directory) := by
  obtain ⟨-, links, hlength, htrail⟩ := locate_eq_ok_iff.mp hroot
  rw [Path.join_absolute (Path.isAbsolute_pathOf _)] at htrail
  refine ⟨links, hlength, ?_⟩
  cases above with
  | nil => exact (htrail.of_stay (Or.inl rfl)).of_stay (Or.inl rfl)
  | cons first rest =>
      rw [Path.segments_pathOf (List.cons_ne_nil first rest) habove] at htrail
      exact htrail.of_stay (Or.inl rfl)

/-- A path that spells out the names of a directory, and names that lead on from there, leads where
they lead. -/
theorem locate_of_join_eq (habove : ∀ name ∈ above, IsComponent name)
    (hroot : s.locate true base (pathOf above) = .ok (root, some .directory))
    (hnames : ∀ name ∈ names, IsComponent name) (hsome : names ≠ []) (hpath : path ≠ "")
    (hjoin : Path.join directory path = pathOf (above ++ names))
    (htrail : s.Trail followsLast root names [] place entry) :
    s.locate followsLast directory path = .ok (place, entry) := by
  obtain ⟨links, hlength, habove_trail⟩ := exists_trail_of_locate_pathOf habove hroot
  rw [locate_eq_ok_iff, hjoin,
    Path.segments_pathOf (by simp [hsome]) (List.forall_mem_append.mpr ⟨habove, hnames⟩)]
  refine ⟨hpath, links ++ [], by simpa using hlength, .stay (Or.inl rfl) ?_⟩
  exact habove_trail.append rfl hsome htrail

variable (hdirs : ∀ name ∈ dirs, IsComponent name)
variable (hdirectories : ∀ upper, upper <+: dirs → s.get? (root ++ upper) = some .directory)

include hdirs hdirectories

/-- Below directories a name leads to what is stored there. -/
theorem trail_below (hname : IsComponent name)
    (hstored : s.get? (root ++ (dirs ++ [name])) = entry) (hend : CanEnd followsLast entry) :
    s.Trail followsLast root (dirs ++ [name]) [] (root ++ (dirs ++ [name])) entry := by
  rw [← List.append_assoc] at hstored ⊢
  exact trail_of_directories (fun name hname => (hdirs name hname).1)
    (fun upper _ hupper => hdirectories upper hupper) (.stop hname.1 hstored hend)

end Paths

theorem get?_ne_none_of_mem_namesBelow {s : Store} {address : Address} {name : String}
    (hname : name ∈ s.namesBelow address) : s.get? (address ++ [name]) ≠ none := by
  rw [namesBelow, List.mem_filterMap] at hname
  obtain ⟨⟨stored, entry⟩, hmem, hlast⟩ := hname
  dsimp only at hlast
  split at hlast
  · next hbelow =>
      have hsame : address ++ [name] = stored := by
        rw [← hbelow.2]
        exact List.dropLast_append_getLast? name hlast
      rw [hsame, get?, if_neg hbelow.1, Ne, List.lookup_eq_none_iff]
      exact fun hnone => by simpa using hnone _ hmem
  · cases hlast

end Store

end MutationTesting.Files
