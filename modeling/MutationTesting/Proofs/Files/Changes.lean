import Mathlib.Logic.Relation
import MutationTesting.Proofs.Files.Ways

/-!
# Changes to regular files

Code that writes and deletes regular files, and nothing else, leaves all paths leading where they
led.  A file that it has deleted can be written again, and what stands at a path can be removed.
-/

namespace MutationTesting.Files

open Relation (ReflTransGen)

namespace FileSystem

/-- One change to a regular file: it is written, created or deleted. -/
inductive FileChange (now : FileSystem) : FileSystem → Prop
  | write {path : Path} {content : Bytes} {next : FileSystem}
      (hwrite : now.write path content = .ok next) : FileChange now next
  | delete {path : Path} {address : Address} {content : Bytes} {next : FileSystem}
      (hfile : now.store.locate false now.directory path = .ok (address, some (.file content)))
      (hremove : now.remove path = .ok next) : FileChange now next

namespace KeepsWays

variable {paths : Path → Prop} {start now next : FileSystem} {path : Path} {address : Address}

theorem change (hkept : KeepsWays paths start now) (hchange : FileChange now next) :
    KeepsWays paths start next := by
  cases hchange with
  | write hwrite => exact hkept.write hwrite
  | @delete path address content _ hfile hremove =>
      obtain ⟨_, _, hlocate, _, rfl⟩ := exists_locate_of_remove hremove
      rw [hfile] at hlocate
      cases hlocate
      obtain ⟨_, _, _, htrail⟩ := Store.locate_eq_ok_iff.mp hfile
      have hstored := htrail.get?_eq (by simp)
      have hdirectory : now.store.get? address ≠ some .directory := by simp [hstored]
      exact
        { directory := hkept.directory
          later := hkept.later.trans (Store.Later.erase hdirectory)
          links := by
            intro other link hother hover
            have hsame := hkept.links other link hother hover
            obtain ⟨_, _, _, hway, hmem⟩ := hover
            obtain ⟨target, htarget⟩ := hway.isLink link hmem
            rw [Store.get?_erase (Store.ne_nil_of_get?_ne hdirectory), if_neg, hsame]
            rintro rfl
            rw [htarget, hstored] at hsame
            cases hsame }

theorem changes (hkept : KeepsWays paths start now) (hchanges : ReflTransGen FileChange now next) :
    KeepsWays paths start next := by
  induction hchanges with
  | refl => exact hkept
  | tail _ hchange ih => exact ih.change hchange

/-- A path leads where it led at the start, to what is stored there now. -/
theorem trail_of_opened {entry : Option Entry} {links : List Address}
    (hkept : KeepsWays paths start now) (hpath : paths path)
    (htrail : start.store.Trail true [] (Path.segments (Path.join start.directory path)) links
      address entry) (hentry : entry ≠ some .directory) :
    now.store.Trail true [] (Path.segments (Path.join start.directory path)) links address
      (now.store.get? address) := by
  have hstored := htrail.get?_eq hentry
  refine hkept.later.trail htrail hentry (fun link hlink => ?_) rfl ⟨?_, ?_⟩
  · exact hkept.links path link hpath ((leadsOver_iff htrail link).mpr hlink)
  · rw [Ne, hkept.later.directory, hstored]
    exact hentry
  · intro target hlink
    have hbefore := hkept.later.link address target hlink
    exact absurd (hstored.symm.trans hbefore) (htrail.ne_link target)

theorem locate_of_opened {entry : Option Entry} (hkept : KeepsWays paths start now)
    (hpath : paths path)
    (hopened : start.store.locate true start.directory path = .ok (address, entry))
    (hentry : entry ≠ some .directory) :
    now.store.locate true now.directory path = .ok (address, now.store.get? address) := by
  obtain ⟨hnonempty, links, hlength, htrail⟩ := Store.locate_eq_ok_iff.mp hopened
  rw [hkept.directory, Store.locate_eq_ok_iff]
  exact ⟨hnonempty, links, hlength, hkept.trail_of_opened hpath htrail hentry⟩

/-- A file that was there at the start can be written, whether or not it is still there. -/
theorem exists_write {original : Bytes} (hkept : KeepsWays paths start now) (hpath : paths path)
    (hopened : start.store.locate true start.directory path =
      .ok (address, some (.file original))) (content : Bytes) :
    ∃ next, now.write path content = .ok next ∧ KeepsFile paths start address next content := by
  have hlocate := hkept.locate_of_opened hpath hopened (by simp)
  have hdirectory : now.store.get? address ≠ some .directory := by
    obtain ⟨_, _, _, htrail⟩ := Store.locate_eq_ok_iff.mp hopened
    rw [Ne, hkept.later.directory, htrail.get?_eq (by simp)]
    simp
  have hwrite : now.write path content =
      .ok { now with store := now.store.put address (.file content) } :=
    write_of_locate hlocate hdirectory
  exact ⟨_, hwrite, hkept.write hwrite, get?_of_write hwrite hlocate⟩

/-- What could be opened at the start can be removed, unless it is missing. -/
theorem remove_cases {entry : Option Entry} (hkept : KeepsWays paths start now)
    (hpath : paths path)
    (hopened : start.store.locate true start.directory path = .ok (address, entry))
    (hentry : entry ≠ some .directory) :
    (∃ next, now.remove path = .ok next) ∨ now.remove path = .error .notFound := by
  obtain ⟨hnonempty, links, hlength, htrail⟩ := Store.locate_eq_ok_iff.mp hopened
  have hnow := hkept.trail_of_opened hpath htrail hentry
  obtain ⟨others, place, found, hnamed, hothers, -⟩ := hnow.exists_named
  have hlocate : now.store.locate false now.directory path = .ok (place, found) := by
    rw [hkept.directory, Store.locate_eq_ok_iff]
    exact ⟨hnonempty, others, Nat.le_trans hothers hlength, hnamed⟩
  have hfound : found ≠ some .directory := by
    rintro rfl
    have hsame := Store.locate_eq_ok_iff.mpr
      ⟨hnonempty, others, Nat.le_trans hothers hlength, hnamed.to_directory rfl⟩
    rw [← hkept.directory, hkept.locate_of_opened hpath hopened hentry, Except.ok.injEq,
      Prod.mk.injEq, hkept.later.directory, htrail.get?_eq hentry] at hsame
    exact hentry hsame.2
  cases found with
  | none =>
      right
      rw [FileSystem.remove, hlocate]
      rfl
  | some found => exact Or.inl ⟨_, remove_of_locate hlocate (by simpa using hfound)⟩

end KeepsWays

variable {now next : FileSystem} {path : Path}

theorem holds_eq_true_iff : now.holds path = true ↔
    ∃ address entry, now.store.locate false now.directory path = .ok (address, some entry) := by
  rw [holds]
  cases now.store.locate false now.directory path with
  | error e => simp
  | ok place => cases hentry : place.2 <;> simp [Prod.ext_iff, hentry]

theorem holds_of_remove_notFound (hremove : now.remove path = .error .notFound) :
    now.holds path = false := by
  rw [← Bool.not_eq_true, holds_eq_true_iff]
  rintro ⟨address, entry, hlocate⟩
  rw [remove, hlocate] at hremove
  cases entry <;> cases hremove

/-- Where nothing is, there is still nothing after removals. -/
theorem Erodes.holds (herodes : Erodes now next) (hnow : now.holds path = false) :
    next.holds path = false := by
  rw [← Bool.not_eq_true, holds_eq_true_iff] at hnow ⊢
  rintro ⟨address, entry, hlocate⟩
  obtain ⟨hnonempty, links, hlength, htrail⟩ := Store.locate_eq_ok_iff.mp hlocate
  rw [herodes.directory] at htrail
  refine hnow ⟨address, entry, Store.locate_eq_ok_iff.mpr ⟨hnonempty, links, hlength, ?_⟩⟩
  by_cases hentry : some entry = some .directory
  · rw [hentry]
    exact herodes.later.directory_before htrail hentry
  · have hstored := htrail.get?_eq hentry
    have hsame := herodes.stored address
    rw [hstored] at hsame
    rcases hsame with hsame | hgone
    · rw [hsame]
      exact herodes.later.trail_before htrail hentry
    · cases hgone

theorem holds_of_remove (hremove : now.remove path = .ok next) : next.holds path = false := by
  have herodes := (Erodes.refl now).remove hremove
  obtain ⟨address, entry, hlocate, hentry, rfl⟩ := exists_locate_of_remove hremove
  obtain ⟨_, _, _, htrail⟩ := Store.locate_eq_ok_iff.mp hlocate
  have haddress : address ≠ [] := Store.ne_nil_of_get?_ne (s := now.store) (by
    rw [htrail.get?_eq (by simpa using hentry)]
    simpa using hentry)
  rw [← Bool.not_eq_true]
  intro hholds
  obtain ⟨place, found, hfound⟩ := holds_eq_true_iff.mp hholds
  obtain ⟨hnonempty, links, hlength, hway⟩ := Store.locate_eq_ok_iff.mp hfound
  have hwas : ∃ found', now.store.locate false now.directory path = .ok (place, found') ∧
      (some found = some .directory → found' = some .directory) := by
    by_cases hdirectory : some found = some .directory
    · exact ⟨_, Store.locate_eq_ok_iff.mpr ⟨hnonempty, links, hlength,
        herodes.later.directory_before hway hdirectory⟩, fun _ => rfl⟩
    · exact ⟨_, Store.locate_eq_ok_iff.mpr ⟨hnonempty, links, hlength,
        herodes.later.trail_before hway hdirectory⟩, fun h => absurd h hdirectory⟩
  obtain ⟨found', hwas, hkind⟩ := hwas
  rw [hlocate, Except.ok.injEq, Prod.mk.injEq] at hwas
  obtain ⟨rfl, rfl⟩ := hwas
  have hplain : some found ≠ some .directory := fun h => hentry (Option.some.inj (hkind h))
  have hstored := hway.get?_eq hplain
  rw [Store.get?_erase haddress, if_pos rfl] at hstored
  cases hstored

end FileSystem

end MutationTesting.Files
