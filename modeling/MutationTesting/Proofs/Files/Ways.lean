import MutationTesting.Proofs.Files.Trail

/-!
# Paths that keep their way

Files are written and files or links are removed.  A path still leads to its file afterwards if no
link that it leads over was removed.
-/

namespace MutationTesting.Files

namespace FileSystem

/-- Whether a path leads over a link when it is opened. -/
def LeadsOver (fs : FileSystem) (path : Path) (link : Address) : Prop :=
  ∃ links address entry,
    fs.store.Trail true [] (Path.segments (Path.join fs.directory path)) links address entry ∧
      link ∈ links

/-- The links on the way of a path are the ones on any trail of it. -/
theorem leadsOver_iff {fs : FileSystem} {path : Path} {links : List Address} {address : Address}
    {entry : Option Entry}
    (htrail : fs.store.Trail true [] (Path.segments (Path.join fs.directory path)) links address
      entry) (link : Address) : fs.LeadsOver path link ↔ link ∈ links := by
  constructor
  · rintro ⟨others, _, _, hother, hlink⟩
    rwa [htrail.links_unique hother]
  · exact fun hlink => ⟨links, address, entry, htrail, hlink⟩

/-- The address of what a path itself names, which may be a link. -/
def Names (fs : FileSystem) (path : Path) (address : Address) : Prop :=
  ∃ entry, fs.store.locate false fs.directory path = .ok (address, entry)

/-- Between two moments only files were written, and nothing was removed that some paths lead
over. -/
structure KeepsWays (paths : Path → Prop) (before after : FileSystem) : Prop where
  directory : after.directory = before.directory
  later : before.store.Later after.store
  links : ∀ path link, paths path → before.LeadsOver path link →
    after.store.get? link = before.store.get? link

namespace KeepsWays

variable {paths : Path → Prop} {before now next : FileSystem} {path : Path} {file : Address}
variable {content written : Bytes}

theorem refl (paths : Path → Prop) (fs : FileSystem) : KeepsWays paths fs fs :=
  ⟨rfl, Store.Later.refl fs.store, fun _ _ _ _ => rfl⟩

/-- A path that leads to a file still leads to it, if there still is a file. -/
theorem locate (hkept : KeepsWays paths before now) (hpath : paths path)
    (hlocate : before.store.locate true before.directory path = .ok (file, some (.file content)))
    (hfile : now.store.get? file = some (.file written)) :
    now.store.locate true now.directory path = .ok (file, some (.file written)) := by
  obtain ⟨hnonempty, links, hlength, htrail⟩ := Store.locate_eq_ok_iff.mp hlocate
  rw [hkept.directory, Store.locate_eq_ok_iff]
  refine ⟨hnonempty, links, hlength, hkept.later.trail htrail (by simp) (fun link hlink => ?_) hfile
    ⟨by simp, by simp⟩⟩
  exact hkept.links path link hpath ((leadsOver_iff htrail link).mpr hlink)

/-- A path that can be opened still names what is left there. -/
theorem names {address opened : Address} {entry : Option Entry} {found : Entry}
    (hkept : KeepsWays paths before now) (hpath : paths path)
    (hopened : before.store.locate true before.directory path = .ok (opened, entry))
    (hentry : entry ≠ some .directory) (hnames : before.Names path address)
    (hfound : now.store.get? address = some found) (hdirectory : found ≠ .directory) :
    now.store.locate false now.directory path = .ok (address, some found) := by
  obtain ⟨named, hlocate⟩ := hnames
  obtain ⟨hnonempty, links, hlength, htrail⟩ := Store.locate_eq_ok_iff.mp hlocate
  obtain ⟨_, others, _, hother⟩ := Store.locate_eq_ok_iff.mp hopened
  have hnamed : named ≠ some .directory := by
    rintro rfl
    have hsame := Store.locate_eq_ok_iff.mpr ⟨hnonempty, links, hlength, htrail.to_directory rfl⟩
    rw [hopened] at hsame
    cases hsame
    exact hentry rfl
  rw [hkept.directory, Store.locate_eq_ok_iff]
  refine ⟨hnonempty, links, hlength, hkept.later.trail htrail hnamed (fun link hlink => ?_) hfound
    ⟨by simpa using hdirectory, fun _ _ => rfl⟩⟩
  exact hkept.links path link hpath
    ((leadsOver_iff hother link).mpr ((htrail.links_prefix hother (by simp)).subset hlink))

/-- What is put in place of a file or of nothing is on no way. -/
theorem put {address : Address} (hkept : KeepsWays paths before now)
    (hdirectory : now.store.get? address ≠ some .directory)
    (hlink : ∀ target, now.store.get? address ≠ some (.link target)) (content : Bytes) :
    KeepsWays paths before { now with store := now.store.put address (.file content) } where
  directory := hkept.directory
  later := hkept.later.trans (Store.Later.put hdirectory content)
  links := by
    intro path link hpath hover
    have hsame := hkept.links path link hpath hover
    obtain ⟨links, _, _, htrail, hmem⟩ := hover
    obtain ⟨target, htarget⟩ := htrail.isLink link hmem
    rw [Store.get?_put (Store.ne_nil_of_get?_ne hdirectory), if_neg, hsame]
    rintro rfl
    exact hlink target (hsame.trans htarget)

theorem write (hkept : KeepsWays paths before now) (hwrite : now.write path content = .ok next) :
    KeepsWays paths before next := by
  obtain ⟨address, entry, hlocate, hentry, rfl⟩ := exists_locate_of_write hwrite
  obtain ⟨_, _, _, htrail⟩ := Store.locate_eq_ok_iff.mp hlocate
  have hstored := htrail.get?_eq hentry
  exact hkept.put (hstored ▸ hentry) (fun target => hstored ▸ htrail.ne_link target) content

/-- What a path removes is what the path has named before. -/
theorem exists_names_of_remove (hkept : KeepsWays paths before now)
    (hremove : now.remove path = .ok next) :
    ∃ address, before.Names path address ∧ now.store.get? address ≠ some .directory ∧
      next = { now with store := now.store.erase address } := by
  obtain ⟨address, entry, hlocate, hentry, rfl⟩ := exists_locate_of_remove hremove
  obtain ⟨hnonempty, links, hlength, htrail⟩ := Store.locate_eq_ok_iff.mp hlocate
  have hfound : some entry ≠ some .directory := by simpa using hentry
  rw [hkept.directory] at htrail
  have hbefore := hkept.later.trail_before htrail hfound
  exact ⟨address, ⟨_, Store.locate_eq_ok_iff.mpr ⟨hnonempty, links, hlength, hbefore⟩⟩,
    by rwa [htrail.get?_eq hfound], rfl⟩

theorem remove (hkept : KeepsWays paths before now) (hremove : now.remove path = .ok next)
    (hspared : ∀ address, before.Names path address →
      ∀ other, paths other → ¬ before.LeadsOver other address) :
    KeepsWays paths before next := by
  obtain ⟨address, hnames, hdirectory, rfl⟩ := hkept.exists_names_of_remove hremove
  exact
    { directory := hkept.directory
      later := hkept.later.trans (Store.Later.erase hdirectory)
      links := by
        intro other link hother hover
        rw [Store.get?_erase (Store.ne_nil_of_get?_ne hdirectory), if_neg,
          hkept.links other link hother hover]
        rintro rfl
        exact hspared link hnames other hother hover }

theorem get?_of_remove (hkept : KeepsWays paths before now) (hremove : now.remove path = .ok next)
    (hspared : ∀ address, before.Names path address → address ≠ file) :
    next.store.get? file = now.store.get? file := by
  obtain ⟨address, hnames, hdirectory, rfl⟩ := hkept.exists_names_of_remove hremove
  rw [Store.get?_erase (Store.ne_nil_of_get?_ne hdirectory),
    if_neg (Ne.symm (hspared address hnames))]

end KeepsWays

/-- Nothing was added since, and whatever is not as it was is gone. -/
structure Erodes (before after : FileSystem) : Prop where
  directory : after.directory = before.directory
  later : before.store.Later after.store
  stored : ∀ address, after.store.get? address = before.store.get? address ∨
    after.store.get? address = none

namespace Erodes

variable {before now next : FileSystem} {path : Path} {file : Address} {written : Bytes}

theorem refl (fs : FileSystem) : Erodes fs fs :=
  ⟨rfl, Store.Later.refl fs.store, fun _ => Or.inl rfl⟩

theorem remove (herodes : Erodes before now) (hremove : now.remove path = .ok next) :
    Erodes before next := by
  obtain ⟨address, entry, hlocate, hentry, rfl⟩ := exists_locate_of_remove hremove
  obtain ⟨_, _, _, htrail⟩ := Store.locate_eq_ok_iff.mp hlocate
  have hdirectory : now.store.get? address ≠ some .directory := by
    rw [htrail.get?_eq (by simpa using hentry)]
    simpa using hentry
  exact
    { directory := herodes.directory
      later := herodes.later.trans (Store.Later.erase hdirectory)
      stored := by
        intro other
        rw [Store.get?_erase (Store.ne_nil_of_get?_ne hdirectory)]
        split
        · exact Or.inr rfl
        · exact herodes.stored other }

theorem trans (hfirst : Erodes before now) (hsecond : Erodes now next) : Erodes before next where
  directory := hsecond.directory.trans hfirst.directory
  later := hfirst.later.trans hsecond.later
  stored := by
    intro address
    rcases hsecond.stored address with hsame | hgone
    · rw [hsame]
      exact hfirst.stored address
    · exact Or.inr hgone

/-- A path that led to a file reads nothing once the file is gone. -/
theorem read_ne_ok (herodes : Erodes before now)
    (hopened : before.store.locate true before.directory path = .ok (file, some (.file written)))
    (hgone : now.store.get? file = none) (content : Bytes) : now.read path ≠ .ok content := by
  intro hread
  obtain ⟨place, hlocate⟩ := read_eq_ok_iff.mp hread
  obtain ⟨hpath, links, hlength, htrail⟩ := Store.locate_eq_ok_iff.mp hlocate
  have hbefore := herodes.later.file_before herodes.stored htrail rfl
  rw [herodes.directory] at hbefore
  have hsame := Store.locate_eq_ok_iff.mpr ⟨hpath, links, hlength, hbefore⟩
  rw [hopened] at hsame
  cases hsame
  rw [htrail.get?_eq (by simp)] at hgone
  cases hgone

end Erodes

/-- A path that led over a link reads nothing once the link is gone. -/
theorem read_ne_ok_of_lost {start now : FileSystem} {path : Path} {lost : Address}
    (hdirectory : now.directory = start.directory) (hlater : start.store.Later now.store)
    (hover : start.LeadsOver path lost) (hlost : now.store.get? lost = none)
    (hlinks : ∀ link, start.LeadsOver path link →
      now.store.get? link = start.store.get? link ∨ now.store.get? link = none)
    (content : Bytes) : now.read path ≠ .ok content := by
  intro hread
  obtain ⟨links, address, entry, htrail, hmem⟩ := hover
  obtain ⟨_, hlocate⟩ := read_eq_ok_iff.mp hread
  obtain ⟨_, others, _, hother⟩ := Store.locate_eq_ok_iff.mp hlocate
  rw [hdirectory] at hother
  exact hlater.not_trail_of_lost htrail hmem hlost
    (fun link hlink => hlinks link ((leadsOver_iff htrail link).mpr hlink)) hother

section Content

variable {now next : FileSystem} {path : Path} {file : Address} {content : Bytes}

/-- A write changes what is stored where its path leads. -/
theorem exists_get?_of_write (hwrite : now.write path content = .ok next) :
    ∃ address entry, now.store.locate true now.directory path = .ok (address, entry) ∧
      ∀ other, next.store.get? other =
        if other = address then some (.file content) else now.store.get? other := by
  obtain ⟨address, entry, hlocate, hentry, rfl⟩ := exists_locate_of_write hwrite
  obtain ⟨_, _, _, htrail⟩ := Store.locate_eq_ok_iff.mp hlocate
  have hdirectory : now.store.get? address ≠ some .directory := by rwa [htrail.get?_eq hentry]
  exact ⟨address, entry, hlocate, Store.get?_put (Store.ne_nil_of_get?_ne hdirectory) _⟩

/-- A write through a path to a file gives the file its content. -/
theorem get?_of_write {entry : Option Entry} (hwrite : now.write path content = .ok next)
    (hlocate : now.store.locate true now.directory path = .ok (file, entry)) :
    next.store.get? file = some (.file content) := by
  obtain ⟨address, entry', hlocate', hstored⟩ := exists_get?_of_write hwrite
  rw [hlocate] at hlocate'
  cases hlocate'
  rw [hstored, if_pos rfl]

/-- Writing what a file holds already leaves the file as it is, wherever it is written. -/
theorem get?_of_write_same (hwrite : now.write path content = .ok next)
    (hfile : now.store.get? file = some (.file content)) :
    next.store.get? file = some (.file content) := by
  obtain ⟨_, _, _, hstored⟩ := exists_get?_of_write hwrite
  rw [hstored, hfile, ite_self]

end Content

/-- Some paths lead where they led at the start, and a file there has a content. -/
structure KeepsFile (paths : Path → Prop) (start : FileSystem) (file : Address) (now : FileSystem)
    (content : Bytes) : Prop where
  ways : KeepsWays paths start now
  holds : now.store.get? file = some (.file content)

/-- Removing what a path names harms neither a file nor the ways of some paths. -/
def Spares (start : FileSystem) (paths : Path → Prop) (file : Address) (removed : Path) : Prop :=
  ∀ address, start.Names removed address →
    address ≠ file ∧ ∀ path, paths path → ¬ start.LeadsOver path address

/-- What names neither the file nor any link can be removed safely. -/
theorem spares_of_not_link {start : FileSystem} {file : Address} {removed : Path}
    (hremoved : ∀ address, start.Names removed address →
      address ≠ file ∧ ∀ target, start.store.get? address ≠ some (.link target))
    (paths : Path → Prop) : start.Spares paths file removed := by
  intro address hnames
  obtain ⟨hfile, hlink⟩ := hremoved address hnames
  refine ⟨hfile, fun path _ hover => ?_⟩
  obtain ⟨links, _, _, htrail, hmem⟩ := hover
  obtain ⟨target, htarget⟩ := htrail.isLink address hmem
  exact hlink target htarget

/-- What cannot be removed safely names the file or something on a way. -/
theorem exists_needed_of_not_spares {start : FileSystem} {paths : Path → Prop} {file : Address}
    {removed : Path} (hlost : ¬ start.Spares paths file removed) :
    ∃ address, start.Names removed address ∧
      (address = file ∨ ∃ path, paths path ∧ start.LeadsOver path address) := by
  rw [Spares, Classical.not_forall] at hlost
  obtain ⟨address, hlost⟩ := hlost
  rw [Classical.not_imp, Classical.not_and_iff_not_or_not, Classical.not_not] at hlost
  obtain ⟨hnames, hlost⟩ := hlost
  refine ⟨address, hnames, hlost.imp_right fun hway => ?_⟩
  simpa only [Classical.not_forall, Classical.not_not, exists_prop] using hway

namespace KeepsFile

variable {paths : Path → Prop} {start now next : FileSystem} {path : Path} {file : Address}
variable {original content : Bytes}

/-- The file and what is on the ways to it can be removed. -/
theorem exists_get? {address : Address} (hkept : KeepsFile paths start file now content)
    (hneeded : address = file ∨ ∃ path, paths path ∧ start.LeadsOver path address) :
    ∃ found, now.store.get? address = some found ∧ found ≠ .directory := by
  rcases hneeded with rfl | ⟨path, hpath, hover⟩
  · exact ⟨_, hkept.holds, by simp⟩
  · have hsame := hkept.ways.links path address hpath hover
    obtain ⟨_, _, _, htrail, hmem⟩ := hover
    obtain ⟨target, htarget⟩ := htrail.isLink address hmem
    exact ⟨_, hsame.trans htarget, by simp⟩

theorem mono {fewer : Path → Prop} (hkept : KeepsFile paths start file now content)
    (hfewer : ∀ path, fewer path → paths path) : KeepsFile fewer start file now content where
  ways :=
    { directory := hkept.ways.directory
      later := hkept.ways.later
      links := fun path link hpath => hkept.ways.links path link (hfewer path hpath) }
  holds := hkept.holds

theorem locate (hkept : KeepsFile paths start file now content) (hpath : paths path)
    (hlocate : start.store.locate true start.directory path = .ok (file, some (.file original))) :
    now.store.locate true now.directory path = .ok (file, some (.file content)) :=
  hkept.ways.locate hpath hlocate hkept.holds

theorem read (hkept : KeepsFile paths start file now content) (hpath : paths path)
    (hlocate : start.store.locate true start.directory path = .ok (file, some (.file original))) :
    now.read path = .ok content :=
  read_eq_ok_iff.mpr ⟨file, hkept.locate hpath hlocate⟩

/-- A file can be written through any of its paths. -/
theorem exists_write (hkept : KeepsFile paths start file now content) (hpath : paths path)
    (hlocate : start.store.locate true start.directory path = .ok (file, some (.file original)))
    (written : Bytes) :
    ∃ next, now.write path written = .ok next ∧ KeepsFile paths start file next written := by
  have hnow := hkept.locate hpath hlocate
  have hwrite : now.write path written = _ := write_of_locate hnow (by simp)
  exact ⟨_, hwrite, hkept.ways.write hwrite, get?_of_write hwrite hnow⟩

theorem write_same (hkept : KeepsFile paths start file now content)
    (hwrite : now.write path content = .ok next) : KeepsFile paths start file next content :=
  ⟨hkept.ways.write hwrite, get?_of_write_same hwrite hkept.holds⟩

/-- A write that leads elsewhere leaves the file alone. -/
theorem write_other {written : Bytes} (hkept : KeepsFile paths start file now content)
    (hwrite : now.write path written = .ok next)
    (hother : ∀ entry, now.store.locate true now.directory path ≠ .ok (file, entry)) :
    KeepsFile paths start file next content where
  ways := hkept.ways.write hwrite
  holds := by
    obtain ⟨address, entry, hlocate, hstored⟩ := exists_get?_of_write hwrite
    rw [hstored, if_neg, hkept.holds]
    rintro rfl
    exact hother entry hlocate

theorem remove (hkept : KeepsFile paths start file now content)
    (hspares : start.Spares paths file path) (hremove : now.remove path = .ok next) :
    KeepsFile paths start file next content where
  ways := hkept.ways.remove hremove fun address hnames => (hspares address hnames).2
  holds := by
    rw [hkept.ways.get?_of_remove hremove fun address hnames => (hspares address hnames).1]
    exact hkept.holds

end KeepsFile

end FileSystem

end MutationTesting.Files
