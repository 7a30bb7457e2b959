import MutationTesting.Proofs.Files.NormalPath

/-!
# Ways inside a directory

A way that never leaves a directory, neither upwards nor over a link from the root on, depends on
nothing but what the directory holds.  So it is found again in a copy of the directory, wherever the
copy is.
-/

namespace MutationTesting.Files

/-- What a directory holds, by the names that lead there from it. -/
abbrev Contents := Address → Option Entry

namespace Store

/-- What is stored below an address. -/
def inside (s : Store) (root : Address) : Contents := fun place => s.get? (root ++ place)

end Store

namespace Contents

open Store (IsName Trail)

/-- Names lead from a place in a directory to another one and what is there, over relative links and
without leaving the directory. -/
inductive Way (c : Contents) : Address → List String → List Address → Address → Entry → Prop
  | arrive {here : Address} : Way c here [] [] here .directory
  | stay {here : Address} {name : String} {rest : List String} {links : List Address}
      {place : Address} {entry : Entry} (hname : name = "" ∨ name = ".")
      (hrest : Way c here rest links place entry) : Way c here (name :: rest) links place entry
  | up {here : Address} {rest : List String} {links : List Address} {place : Address}
      {entry : Entry} (hhere : here ≠ []) (hrest : Way c here.dropLast rest links place entry) :
      Way c here (".." :: rest) links place entry
  | down {here : Address} {name : String} {rest : List String} {links : List Address}
      {place : Address} {entry : Entry} (hname : IsName name)
      (hnext : c (here ++ [name]) = some .directory)
      (hrest : Way c (here ++ [name]) rest links place entry) :
      Way c here (name :: rest) links place entry
  | stop {here : Address} {name : String} {content : Bytes} (hname : IsName name)
      (hnext : c (here ++ [name]) = some (.file content)) :
      Way c here [name] [] (here ++ [name]) (.file content)
  | jump {here : Address} {name : String} {rest : List String} {target : Path}
      {links : List Address} {place : Address} {entry : Entry} (hname : IsName name)
      (hnext : c (here ++ [name]) = some (.link target))
      (hrelative : Path.isAbsolute target = false)
      (hrest : Way c here (Path.segments target ++ rest) links place entry) :
      Way c here (name :: rest) ((here ++ [name]) :: links) place entry

variable {c c' : Contents} {here : Address} {names : List String} {links : List Address}
variable {place : Address} {entry : Entry}

theorem Way.stored (hway : c.Way here names links place entry) (hentry : entry ≠ .directory) :
    c place = some entry := by
  induction hway with
  | arrive => exact absurd rfl hentry
  | stop _ hnext => exact hnext
  | stay _ _ ih | up _ _ ih | down _ _ _ ih | jump _ _ _ _ ih => exact ih hentry

/-- A way depends on the directories and links that it leads over, and on what is at its end. -/
theorem Way.rewritten {entry' : Entry} (hway : c.Way here names links place entry)
    (hothers : ∀ other found, (∀ content, found ≠ .file content) → c other = some found →
      c' other = some found)
    (hend : entry = .directory ∧ entry' = .directory ∨
      entry ≠ .directory ∧ ∃ content, entry' = .file content ∧ c' place = some (.file content)) :
    c'.Way here names links place entry' := by
  induction hway with
  | arrive =>
      rcases hend with ⟨-, rfl⟩ | ⟨hfile, -⟩
      · exact .arrive
      · exact absurd rfl hfile
  | stay hname _ ih => exact .stay hname (ih hend)
  | up hhere _ ih => exact .up hhere (ih hend)
  | down hname hnext _ ih => exact .down hname (hothers _ _ (by simp) hnext) (ih hend)
  | stop hname _ =>
      rcases hend with ⟨hdirectory, -⟩ | ⟨-, content, rfl, hplace⟩
      · cases hdirectory
      · exact .stop hname hplace
  | jump hname hnext hrelative _ ih =>
      exact .jump hname (hothers _ _ (by simp) hnext) hrelative (ih hend)

/-- A way with a last name leads to a directory before. -/
theorem Way.exists_parent {before : List String} {last : String}
    (hway : c.Way here names links place entry) (hnames : names = before ++ [last]) :
    ∃ others folder, c.Way here before others folder .directory ∧ others.length ≤ links.length := by
  induction hway generalizing before with
  | arrive => simp at hnames
  | @stay here _ _ _ _ _ hname _ ih =>
      rcases List.cons_eq_append_iff.mp hnames with ⟨rfl, -⟩ | ⟨more, rfl, hrest⟩
      · exact ⟨[], here, .arrive, Nat.zero_le _⟩
      · obtain ⟨others, folder, hway, hlength⟩ := ih hrest
        exact ⟨others, folder, .stay hname hway, hlength⟩
  | @up here _ _ _ _ hhere _ ih =>
      rcases List.cons_eq_append_iff.mp hnames with ⟨rfl, -⟩ | ⟨more, rfl, hrest⟩
      · exact ⟨[], here, .arrive, Nat.zero_le _⟩
      · obtain ⟨others, folder, hway, hlength⟩ := ih hrest
        exact ⟨others, folder, .up hhere hway, hlength⟩
  | @down here _ _ _ _ _ hname hnext _ ih =>
      rcases List.cons_eq_append_iff.mp hnames with ⟨rfl, -⟩ | ⟨more, rfl, hrest⟩
      · exact ⟨[], here, .arrive, Nat.zero_le _⟩
      · obtain ⟨others, folder, hway, hlength⟩ := ih hrest
        exact ⟨others, folder, .down hname hnext hway, hlength⟩
  | @stop here _ _ _ _ =>
      rcases List.cons_eq_append_iff.mp hnames with ⟨rfl, -⟩ | ⟨more, rfl, hrest⟩
      · exact ⟨[], here, .arrive, Nat.zero_le _⟩
      · simp at hrest
  | @jump here _ rest target _ _ _ hname hnext hrelative _ ih =>
      rcases List.cons_eq_append_iff.mp hnames with ⟨rfl, -⟩ | ⟨more, rfl, hrest⟩
      · exact ⟨[], here, .arrive, Nat.zero_le _⟩
      · have hsplit : Path.segments target ++ rest = Path.segments target ++ more ++ [last] := by
          rw [hrest, List.append_assoc]
        obtain ⟨others, folder, hway, hlength⟩ := ih hsplit
        exact ⟨_, folder, .jump hname hnext hrelative hway, Nat.succ_le_succ hlength⟩

section Copies

variable {s : Store} {root : Address}

/-- A way inside a directory is a way over the directory. -/
theorem Way.trail (hway : c.Way here names links place entry)
    (hstored : ∀ other found, c other = some found → s.get? (root ++ other) = some found) :
    s.Trail true (root ++ here) names (links.map (root ++ ·)) (root ++ place) (some entry) := by
  induction hway with
  | arrive => exact .arrive
  | stay hname _ ih => exact .stay hname ih
  | @up here _ _ _ _ hhere _ ih =>
      refine .up ?_
      rwa [List.dropLast_append_of_ne_nil hhere]
  | @down here name _ _ _ _ hname hnext _ ih =>
      refine .down hname ?_ ?_
      · rw [List.append_assoc]
        exact hstored _ _ hnext
      · rwa [List.append_assoc]
  | @stop here name content hname hnext =>
      rw [← List.append_assoc]
      refine .stop hname ?_ ⟨by simp, by simp⟩
      rw [List.append_assoc]
      exact hstored _ _ hnext
  | @jump here name rest target _ _ _ hname hnext hrelative _ ih =>
      rw [List.map_cons, ← List.append_assoc]
      have hlink : s.get? (root ++ here ++ [name]) = some (.link target) := by
        rw [List.append_assoc]
        exact hstored _ _ hnext
      refine .jump hname hlink (Or.inr rfl) ?_
      rwa [Store.targetBase, hrelative]

/-- If names that lead somewhere inside a directory lead somewhere in a copy from which some things
were left out, they lead only over what was not left out. -/
theorem Way.copied {others : List Address} {address : Address} {found : Entry}
    (hway : c.Way here names links place entry)
    (htrail : s.Trail true (root ++ here) names others address (some found))
    (hcopied : ∀ other entry, c other = some entry →
      c' other = some entry ∧ s.get? (root ++ other) = some entry ∨
        s.get? (root ++ other) = none) :
    c'.Way here names links place entry := by
  induction hway generalizing others with
  | arrive => exact .arrive
  | stay hname _ ih => exact .stay hname (ih (htrail.of_stay hname))
  | @up here _ _ _ _ hhere _ ih =>
      have hrest := htrail.of_up
      rw [List.dropLast_append_of_ne_nil hhere] at hrest
      exact .up hhere (ih hrest)
  | @down here name _ _ _ _ hname hnext _ ih =>
      rcases hcopied _ _ hnext with ⟨hkept, hsame⟩ | hgone
      · rw [← List.append_assoc] at hsame
        have hrest := htrail.of_directory hname hsame
        rw [List.append_assoc] at hrest
        exact .down hname hkept (ih hrest)
      · rw [← List.append_assoc] at hgone
        cases htrail.eq_none hname hgone
  | @stop here name _ hname hnext =>
      rcases hcopied _ _ hnext with ⟨hkept, -⟩ | hgone
      · exact .stop hname hkept
      · rw [← List.append_assoc] at hgone
        cases htrail.eq_none hname hgone
  | @jump here name rest target _ _ _ hname hnext hrelative _ ih =>
      rcases hcopied _ _ hnext with ⟨hkept, hsame⟩ | hgone
      · rw [← List.append_assoc] at hsame
        obtain ⟨more, -, hrest⟩ := htrail.of_link hname hsame (Or.inr rfl)
        rw [Store.targetBase, hrelative] at hrest
        exact .jump hname hkept hrelative (ih hrest)
      · rw [← List.append_assoc] at hgone
        cases htrail.eq_none hname hgone

end Copies

end Contents

namespace Store

variable {s : Store} {followsLast : Bool} {here address place : Address} {rest : List String}
variable {links : List Address} {entry : Option Entry}

/-- Names of directories lead down through them. -/
theorem trail_of_directories (haddress : ∀ name ∈ address, IsName name)
    (hdirectories : ∀ upper, upper ≠ [] → upper <+: address →
      s.get? (here ++ upper) = some .directory)
    (hrest : s.Trail followsLast (here ++ address) rest links place entry) :
    s.Trail followsLast here (address ++ rest) links place entry := by
  induction address generalizing here with
  | nil => simpa using hrest
  | cons name more ih =>
      refine .down (haddress name List.mem_cons_self)
        (hdirectories [name] (by simp) (by simp)) ?_
      refine ih (fun other hother => haddress other (List.mem_cons_of_mem name hother))
        (fun upper _ hupper => ?_) (by simpa using hrest)
      rw [List.append_assoc]
      exact hdirectories (name :: upper) (by simp) (by simpa using hupper)

/-- There is no other way through directories than down. -/
theorem Trail.of_directories (haddress : ∀ name ∈ address, IsName name)
    (hdirectories : ∀ upper, upper ≠ [] → upper <+: address →
      s.get? (here ++ upper) = some .directory)
    (htrail : s.Trail followsLast here (address ++ rest) links place entry) :
    s.Trail followsLast (here ++ address) rest links place entry := by
  induction address generalizing here with
  | nil => simpa using htrail
  | cons name more ih =>
      have hnext := htrail.of_directory (haddress name List.mem_cons_self)
        (hdirectories [name] (by simp) (by simp))
      have hbelow := ih (fun other hother => haddress other (List.mem_cons_of_mem name hother))
        (fun upper _ hupper => by
          rw [List.append_assoc]
          exact hdirectories (name :: upper) (by simp) (by simpa using hupper)) hnext
      simpa using hbelow

/-- Names lead on from the directory that others lead to. -/
theorem Trail.append {names others : List String} {more : List Address} {folder : Address}
    {found : Option Entry} (htrail : s.Trail true here names links folder found)
    (hfound : found = some .directory) (hothers : others ≠ [])
    (hrest : s.Trail followsLast folder others more place entry) :
    s.Trail followsLast here (names ++ others) (links ++ more) place entry := by
  induction htrail with
  | arrive => exact hrest
  | stay hname _ ih => exact .stay hname (ih hfound hrest)
  | up _ ih => exact .up (ih hfound hrest)
  | down hname hnext _ ih => exact .down hname hnext (ih hfound hrest)
  | stop _ _ hend => exact absurd hfound hend.1
  | jump hname hnext _ _ ih =>
      have hmore := ih hfound hrest
      rw [List.append_assoc] at hmore
      exact .jump hname hnext (Or.inl (by simp [hothers])) hmore

/-- A single name leads to what has the name. -/
theorem trail_single {name : String} (hname : IsName name)
    (hlink : ∀ target, s.get? (here ++ [name]) ≠ some (.link target)) :
    s.Trail followsLast here [name] [] (here ++ [name]) (s.get? (here ++ [name])) := by
  by_cases hdirectory : s.get? (here ++ [name]) = some .directory
  · rw [hdirectory]
    exact .down hname hdirectory .arrive
  · exact .stop hname rfl ⟨hdirectory, fun target htarget => absurd htarget (hlink target)⟩

/-- The last name on the way to a file is the name of the file. -/
theorem Trail.of_single {name : String} (htrail : s.Trail false here [name] links place entry)
    (hentry : entry ≠ some .directory) : IsName name ∧ place = here ++ [name] := by
  cases htrail with
  | stay _ hrest | up hrest | down _ _ hrest =>
      cases hrest
      exact absurd rfl hentry
  | stop hname _ _ => exact ⟨hname, rfl⟩
  | jump _ _ hfollowed _ => simp at hfollowed

/-- A trail depends on the directories and links that it leads over, and on what is at its end. -/
theorem Trail.rewritten {s' : Store} {names : List String} {entry' : Option Entry}
    (htrail : s.Trail followsLast here names links place entry)
    (hothers : ∀ other found, (∀ content, found ≠ .file content) → s.get? other = some found →
      s'.get? other = some found)
    (hend : entry = some .directory ∧ entry' = some .directory ∨
      entry ≠ some .directory ∧ s'.get? place = entry' ∧ CanEnd followsLast entry') :
    s'.Trail followsLast here names links place entry' := by
  induction htrail with
  | arrive =>
      rcases hend with ⟨-, rfl⟩ | ⟨hfile, -⟩
      · exact .arrive
      · exact absurd rfl hfile
  | stay hname _ ih => exact .stay hname (ih hend)
  | up _ ih => exact .up (ih hend)
  | down hname hnext _ ih => exact .down hname (hothers _ _ (by simp) hnext) (ih hend)
  | stop hname _ hlast =>
      rcases hend with ⟨hdirectory, -⟩ | ⟨-, hstored, hnow⟩
      · exact absurd hdirectory hlast.1
      · exact .stop hname hstored hnow
  | jump hname hnext hfollowed _ ih =>
      exact .jump hname (hothers _ _ (by simp) hnext) hfollowed (ih hend)

/-- Names that are followed by others lead to a directory. -/
theorem Trail.exists_folder {names others : List String} (hothers : others ≠ [])
    (htrail : s.Trail followsLast here (names ++ others) links place entry) :
    ∃ first second folder, links = first ++ second ∧
      s.Trail true here names first folder (some .directory) ∧
        s.Trail followsLast folder others second place entry := by
  generalize hall : names ++ others = all at htrail
  induction htrail generalizing names with
  | arrive => simp [hothers] at hall
  | @stay here name rest links place entry hname hrest ih =>
      cases names with
      | nil =>
          cases hall
          exact ⟨[], links, here, rfl, .arrive, .stay hname hrest⟩
      | cons first more =>
          rw [List.cons_append, List.cons.injEq] at hall
          obtain ⟨before, after, folder, rfl, hfirst, hsecond⟩ := ih hall.2
          exact ⟨before, after, folder, rfl, .stay (hall.1 ▸ hname) hfirst, hsecond⟩
  | @up here rest links place entry hrest ih =>
      cases names with
      | nil =>
          cases hall
          exact ⟨[], links, here, rfl, .arrive, .up hrest⟩
      | cons first more =>
          rw [List.cons_append, List.cons.injEq] at hall
          obtain ⟨before, after, folder, rfl, hfirst, hsecond⟩ := ih hall.2
          exact ⟨before, after, folder, rfl, hall.1 ▸ .up hfirst, hsecond⟩
  | @down here name rest links place entry hname hnext hrest ih =>
      cases names with
      | nil =>
          cases hall
          exact ⟨[], links, here, rfl, .arrive, .down hname hnext hrest⟩
      | cons first more =>
          rw [List.cons_append, List.cons.injEq] at hall
          obtain ⟨before, after, folder, rfl, hfirst, hsecond⟩ := ih hall.2
          rw [hall.1]
          exact ⟨before, after, folder, rfl, .down hname hnext hfirst, hsecond⟩
  | @stop here name entry hname hnext hend =>
      cases names with
      | nil =>
          cases hall
          exact ⟨[], [], here, rfl, .arrive, .stop hname hnext hend⟩
      | cons first more => simp [hothers] at hall
  | @jump here name rest target links place entry hname hnext hfollowed hrest ih =>
      cases names with
      | nil =>
          cases hall
          exact ⟨[], _, here, rfl, .arrive, .jump hname hnext hfollowed hrest⟩
      | cons first more =>
          rw [List.cons_append, List.cons.injEq] at hall
          obtain ⟨before, after, folder, rfl, hfirst, hsecond⟩ :=
            @ih (Path.segments target ++ more) (by rw [List.append_assoc, hall.2])
          rw [hall.1]
          exact ⟨_ :: before, after, folder, rfl, .jump hname hnext (Or.inr rfl) hfirst, hsecond⟩

/-- The path of a place below some directories leads there by the way from the last of them. -/
theorem locate_pathOf {root : Address} {names : List String} (directory : Path)
    (hroot : ∀ name ∈ root, Path.IsComponent name) (hnames : ∀ name ∈ names, Path.IsComponent name)
    (hnonempty : names ≠ [])
    (hdirectories : ∀ upper, upper ≠ [] → upper <+: root → s.get? upper = some .directory)
    (htrail : s.Trail followsLast root names links place entry) (hlinks : links.length ≤ maxLinks) :
    s.locate followsLast directory (FileSystem.pathOf (root ++ names)) = .ok (place, entry) := by
  have hall := List.forall_mem_append.mpr ⟨hroot, hnames⟩
  rw [locate_eq_ok_iff, Path.join_absolute (Path.isAbsolute_pathOf _),
    Path.segments_pathOf (by simp [hnonempty]) hall]
  refine ⟨by simp [FileSystem.pathOf], links, hlinks, .stay (Or.inl rfl) ?_⟩
  exact trail_of_directories (fun name hname => (hroot name hname).1) (by simpa using hdirectories)
    (by simpa using htrail)

end Store

/-- A file in a directory that is missing is not found. -/
theorem FileSystem.read_of_missing {fs : FileSystem} {front rest : List String} {name : String}
    (hnames : ∀ other ∈ front ++ name :: rest, Path.IsComponent other)
    (hdirectories : ∀ upper, upper ≠ [] → upper <+: front →
      fs.store.get? upper = some .directory)
    (hmissing : fs.store.get? (front ++ [name]) = none) :
    fs.read (FileSystem.pathOf (front ++ name :: rest)) = .error .notFound := by
  have hwalk : fs.store.walk true [] (front ++ name :: rest) =
      if rest.isEmpty then .at (front ++ [name]) none else .failed .notFound :=
    Store.walk_of_missing (fun other hother => (hnames other (by simp [hother])).1)
      (hnames name (by simp)).1 (by simpa using hdirectories) (by simpa using hmissing)
  rw [FileSystem.read, Store.locate, if_neg (by simp [FileSystem.pathOf]),
    Path.join_absolute (Path.isAbsolute_pathOf _), Path.segments_pathOf (by simp) hnames,
    Store.follow, Store.walk_stay (Or.inl rfl), hwalk]
  cases rest <;> rfl

end MutationTesting.Files
