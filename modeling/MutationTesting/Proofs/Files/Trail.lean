import MutationTesting.Proofs.Files.Access

/-!
# The way to an address

Names lead from one address to another over directories and links.  A trail lists the links in their
order.  It depends on nothing else that is stored, so a path leads to the same place as long as the
directories and these links are kept.
-/

namespace MutationTesting.Files

namespace Store

/-- Whether a text names an entry of a directory. -/
def IsName (name : String) : Prop := name ≠ "" ∧ name ≠ "." ∧ name ≠ ".."

instance (name : String) : Decidable (IsName name) :=
  inferInstanceAs (Decidable (name ≠ "" ∧ name ≠ "." ∧ name ≠ ".."))

/-- Whether following names may end at something other than a directory. -/
def CanEnd (followsLast : Bool) (entry : Option Entry) : Prop :=
  entry ≠ some .directory ∧ ∀ target, entry = some (.link target) → followsLast = false

/-- Names lead from a directory over links to an address, which holds an entry. -/
inductive Trail (s : Store) (followsLast : Bool) :
    Address → List String → List Address → Address → Option Entry → Prop
  | arrive {here : Address} : Trail s followsLast here [] [] here (some .directory)
  | stay {here : Address} {name : String} {rest : List String} {links : List Address}
      {address : Address} {entry : Option Entry} (hname : name = "" ∨ name = ".")
      (hrest : Trail s followsLast here rest links address entry) :
      Trail s followsLast here (name :: rest) links address entry
  | up {here : Address} {rest : List String} {links : List Address} {address : Address}
      {entry : Option Entry} (hrest : Trail s followsLast here.dropLast rest links address entry) :
      Trail s followsLast here (".." :: rest) links address entry
  | down {here : Address} {name : String} {rest : List String} {links : List Address}
      {address : Address} {entry : Option Entry} (hname : IsName name)
      (hnext : s.get? (here ++ [name]) = some .directory)
      (hrest : Trail s followsLast (here ++ [name]) rest links address entry) :
      Trail s followsLast here (name :: rest) links address entry
  | stop {here : Address} {name : String} {entry : Option Entry} (hname : IsName name)
      (hnext : s.get? (here ++ [name]) = entry) (hend : CanEnd followsLast entry) :
      Trail s followsLast here [name] [] (here ++ [name]) entry
  | jump {here : Address} {name : String} {rest : List String} {target : Path}
      {links : List Address} {address : Address} {entry : Option Entry} (hname : IsName name)
      (hnext : s.get? (here ++ [name]) = some (.link target))
      (hfollowed : rest ≠ [] ∨ followsLast = true)
      (hrest : Trail s followsLast (targetBase here target) (Path.segments target ++ rest) links
        address entry) :
      Trail s followsLast here (name :: rest) ((here ++ [name]) :: links) address entry

section Walk

variable {s : Store} {followsLast : Bool} {here : Address} {name : String} {rest : List String}

theorem walk_stay (hname : name = "" ∨ name = ".") :
    s.walk followsLast here (name :: rest) = s.walk followsLast here rest := by
  rw [walk, if_pos hname]

theorem walk_up :
    s.walk followsLast here (".." :: rest) = s.walk followsLast here.dropLast rest := by
  rw [walk, if_neg (by decide), if_pos rfl]

theorem walk_name (hname : IsName name) :
    s.walk followsLast here (name :: rest) =
      match s.get? (here ++ [name]) with
      | some .directory => s.walk followsLast (here ++ [name]) rest
      | some (.file content) =>
        if rest.isEmpty then .at (here ++ [name]) (some (.file content)) else .failed .notDirectory
      | some (.link target) =>
        if rest.isEmpty && !followsLast then .at (here ++ [name]) (some (.link target))
        else .detour here target rest
      | none => if rest.isEmpty then .at (here ++ [name]) none else .failed .notFound := by
  rw [walk]
  exact (if_neg (by simp [hname.1, hname.2.1])).trans (if_neg hname.2.2)

theorem follow_congr {there : Address} {names others : List String} (bound : Nat)
    (hwalk : s.walk followsLast here names = s.walk followsLast there others) :
    s.follow followsLast bound here names = s.follow followsLast bound there others := by
  cases bound with
  | zero => rfl
  | succ bound => rw [follow, follow, hwalk]

/-- Following names ends at a name that is missing. -/
theorem walk_of_missing {front : List String} (hfront : ∀ other ∈ front, IsName other)
    (hname : IsName name) (hdirectories : ∀ upper, upper ≠ [] → upper <+: front →
      s.get? (here ++ upper) = some .directory)
    (hmissing : s.get? (here ++ (front ++ [name])) = none) :
    s.walk followsLast here (front ++ name :: rest) =
      if rest.isEmpty then .at (here ++ (front ++ [name])) none else .failed .notFound := by
  induction front generalizing here with
  | nil =>
      rw [List.nil_append] at hmissing
      rw [List.nil_append, List.nil_append, walk_name hname, hmissing]
  | cons first more ih =>
      have hfirst := hdirectories [first] (by simp) (by simp)
      have hmore := @ih (here ++ [first]) (fun other hother => hfront other (.tail _ hother))
        (fun upper _ hupper => by
          rw [List.append_assoc]
          exact hdirectories (first :: upper) (by simp) (by simpa using hupper))
        (by simpa using hmissing)
      rw [List.cons_append, walk_name (hfront first List.mem_cons_self), hfirst]
      simpa using hmore

/-- Each name stays, goes up, or goes on from the current directory. -/
theorem name_cases (name : String) : (name = "" ∨ name = ".") ∨ name = ".." ∨ IsName name := by
  by_cases hstay : name = "" ∨ name = "."
  · exact Or.inl hstay
  · by_cases hup : name = ".."
    · exact Or.inr (Or.inl hup)
    · rw [not_or] at hstay
      exact Or.inr (Or.inr ⟨hstay.1, hstay.2, hup⟩)

end Walk

section Follow

variable {s : Store} {followsLast : Bool}

theorem trail_of_walk_at {here : Address} {names : List String} {address : Address}
    {entry : Option Entry} (hwalk : s.walk followsLast here names = .at address entry) :
    s.Trail followsLast here names [] address entry := by
  induction names generalizing here with
  | nil =>
      cases hwalk
      exact .arrive
  | cons name rest ih =>
      rcases name_cases name with hstay | rfl | hname
      · rw [walk_stay hstay] at hwalk
        exact .stay hstay (ih hwalk)
      · rw [walk_up] at hwalk
        exact .up (ih hwalk)
      · rw [walk_name hname] at hwalk
        cases hnext : s.get? (here ++ [name]) with
        | none =>
            cases rest with
            | nil =>
                simp only [hnext] at hwalk
                cases hwalk
                exact .stop hname hnext ⟨by simp, by simp⟩
            | cons _ _ => simp [hnext] at hwalk
        | some entry =>
            cases entry with
            | directory =>
                rw [hnext] at hwalk
                exact .down hname hnext (ih hwalk)
            | file content =>
                cases rest with
                | nil =>
                    simp only [hnext] at hwalk
                    cases hwalk
                    exact .stop hname hnext ⟨by simp, by simp⟩
                | cons _ _ => simp [hnext] at hwalk
            | link target =>
                simp only [hnext] at hwalk
                split at hwalk
                · next hlast =>
                    rw [Bool.and_eq_true, List.isEmpty_iff, Bool.not_eq_true'] at hlast
                    cases hwalk
                    rw [hlast.1]
                    exact .stop hname hnext ⟨by simp, fun _ _ => hlast.2⟩
                · cases hwalk

/-- A walk that ends before a link goes on from where the link leads. -/
theorem exists_trail_of_walk_detour {here base : Address} {names rest : List String}
    {target : Path} (hwalk : s.walk followsLast here names = .detour base target rest)
    {links : List Address} {address : Address} {entry : Option Entry}
    (htrail : s.Trail followsLast (targetBase base target) (Path.segments target ++ rest) links
      address entry) :
    ∃ link, s.Trail followsLast here names (link :: links) address entry := by
  induction names generalizing here with
  | nil => cases hwalk
  | cons name others ih =>
      rcases name_cases name with hstay | rfl | hname
      · rw [walk_stay hstay] at hwalk
        obtain ⟨link, hlink⟩ := ih hwalk
        exact ⟨link, .stay hstay hlink⟩
      · rw [walk_up] at hwalk
        obtain ⟨link, hlink⟩ := ih hwalk
        exact ⟨link, .up hlink⟩
      · rw [walk_name hname] at hwalk
        cases hnext : s.get? (here ++ [name]) with
        | none =>
            simp only [hnext] at hwalk
            split at hwalk <;> cases hwalk
        | some next =>
            cases next with
            | directory =>
                rw [hnext] at hwalk
                obtain ⟨link, hlink⟩ := ih hwalk
                exact ⟨link, .down hname hnext hlink⟩
            | file content =>
                simp only [hnext] at hwalk
                split at hwalk <;> cases hwalk
            | link target' =>
                simp only [hnext] at hwalk
                split at hwalk
                · cases hwalk
                · next hlast =>
                    cases hwalk
                    have hfollowed : rest ≠ [] ∨ followsLast = true := by
                      cases rest with
                      | nil => exact Or.inr (by simpa using hlast)
                      | cons _ _ => exact Or.inl (by simp)
                    exact ⟨_, .jump hname hnext hfollowed htrail⟩

/-- Names that can be followed have a trail. -/
theorem exists_trail_of_follow {bound : Nat} {here : Address} {names : List String}
    {address : Address} {entry : Option Entry}
    (hfollow : s.follow followsLast bound here names = .ok (address, entry)) :
    ∃ links, links.length < bound ∧ s.Trail followsLast here names links address entry := by
  induction bound generalizing here names with
  | zero => cases hfollow
  | succ bound ih =>
      rw [follow] at hfollow
      cases hwalk : s.walk followsLast here names with
      | «at» place found =>
          rw [hwalk] at hfollow
          cases hfollow
          exact ⟨[], Nat.zero_lt_succ bound, trail_of_walk_at hwalk⟩
      | detour base target rest =>
          rw [hwalk] at hfollow
          obtain ⟨links, hlength, htrail⟩ := ih hfollow
          obtain ⟨link, hlink⟩ := exists_trail_of_walk_detour hwalk htrail
          exact ⟨link :: links, Nat.succ_lt_succ hlength, hlink⟩
      | failed e =>
          rw [hwalk] at hfollow
          cases hfollow

/-- A trail with few enough links can be followed. -/
theorem Trail.follow_eq_ok {bound : Nat} {here : Address} {names : List String}
    {links : List Address} {address : Address} {entry : Option Entry}
    (htrail : s.Trail followsLast here names links address entry) (hbound : links.length < bound) :
    s.follow followsLast bound here names = .ok (address, entry) := by
  obtain ⟨bound, rfl⟩ : ∃ less, bound = less + 1 := ⟨bound - 1, by omega⟩
  induction htrail generalizing bound with
  | arrive => rfl
  | stay hname _ ih => rw [follow_congr _ (walk_stay hname), ih bound hbound]
  | up _ ih => rw [follow_congr _ walk_up, ih bound hbound]
  | @down here name rest _ _ _ hname hnext _ ih =>
      have hwalk : s.walk followsLast here (name :: rest) =
          s.walk followsLast (here ++ [name]) rest := by
        rw [walk_name hname, hnext]
      rw [follow_congr _ hwalk, ih bound hbound]
  | @stop here name entry hname hnext hend =>
      rw [follow, walk_name hname, hnext]
      cases entry with
      | none => rfl
      | some entry =>
          cases entry with
          | directory => exact absurd rfl hend.1
          | file content => rfl
          | link target => simp [hend.2 target rfl]
  | @jump here name rest target links _ _ hname hnext hfollowed _ ih =>
      have hwalk : s.walk followsLast here (name :: rest) = .detour here target rest := by
        rw [walk_name hname, hnext]
        rcases hfollowed with hrest | hlast
        · simp [hrest]
        · simp [hlast]
      rw [List.length_cons, Nat.succ_lt_succ_iff] at hbound
      obtain ⟨bound, rfl⟩ : ∃ less, bound = less + 1 := ⟨bound - 1, by omega⟩
      rw [follow, hwalk]
      exact ih bound hbound

theorem locate_eq_ok_iff {directory path : Path} {address : Address} {entry : Option Entry} :
    s.locate followsLast directory path = .ok (address, entry) ↔
      path ≠ "" ∧ ∃ links, links.length ≤ maxLinks ∧
        s.Trail followsLast [] (Path.segments (Path.join directory path)) links address entry := by
  rw [locate]
  by_cases hpath : path = ""
  · simp [hpath]
  · rw [if_neg hpath]
    constructor
    · intro hfollow
      obtain ⟨links, hlength, htrail⟩ := exists_trail_of_follow hfollow
      exact ⟨hpath, links, Nat.le_of_lt_succ hlength, htrail⟩
    · rintro ⟨_, links, hlength, htrail⟩
      exact htrail.follow_eq_ok (Nat.lt_succ_of_le hlength)

end Follow

section Inversion

variable {s : Store} {followsLast : Bool} {here : Address} {name : String} {rest : List String}
variable {links : List Address} {address : Address} {entry : Option Entry}

theorem Trail.of_stay (htrail : s.Trail followsLast here (name :: rest) links address entry)
    (hstay : name = "" ∨ name = ".") : s.Trail followsLast here rest links address entry := by
  cases htrail with
  | stay _ hrest => exact hrest
  | up _ => simp at hstay
  | down hname | stop hname | jump hname => simp [hname.1, hname.2.1] at hstay

theorem Trail.of_up (htrail : s.Trail followsLast here (".." :: rest) links address entry) :
    s.Trail followsLast here.dropLast rest links address entry := by
  cases htrail with
  | stay hstay _ => simp at hstay
  | up hrest => exact hrest
  | down hname | stop hname | jump hname => exact absurd rfl hname.2.2

theorem Trail.of_directory (htrail : s.Trail followsLast here (name :: rest) links address entry)
    (hname : IsName name) (hnext : s.get? (here ++ [name]) = some .directory) :
    s.Trail followsLast (here ++ [name]) rest links address entry := by
  cases htrail with
  | stay hstay _ => simp [hname.1, hname.2.1] at hstay
  | up _ => exact absurd rfl hname.2.2
  | down _ _ hrest => exact hrest
  | stop _ hstop hend => exact absurd (hstop.symm.trans hnext) hend.1
  | jump _ hjump _ _ => simp [hnext] at hjump

theorem Trail.of_link {target : Path}
    (htrail : s.Trail followsLast here (name :: rest) links address entry) (hname : IsName name)
    (hnext : s.get? (here ++ [name]) = some (.link target))
    (hfollowed : rest ≠ [] ∨ followsLast = true) :
    ∃ others, links = (here ++ [name]) :: others ∧
      s.Trail followsLast (targetBase here target) (Path.segments target ++ rest) others address
        entry := by
  cases htrail with
  | stay hstay _ => simp [hname.1, hname.2.1] at hstay
  | up _ => exact absurd rfl hname.2.2
  | down _ hdown _ => simp [hnext] at hdown
  | stop _ hstop hend =>
      have hlast := hend.2 target (hstop.symm.trans hnext)
      simp [hlast] at hfollowed
  | jump _ hjump _ hrest =>
      rw [hnext, Option.some.injEq, Entry.link.injEq] at hjump
      subst hjump
      exact ⟨_, rfl, hrest⟩

/-- A trail ends at the latest where nothing is stored. -/
theorem Trail.eq_none (htrail : s.Trail followsLast here (name :: rest) links address entry)
    (hname : IsName name) (hnext : s.get? (here ++ [name]) = none) : entry = none := by
  cases htrail with
  | stay hstay _ => simp [hname.1, hname.2.1] at hstay
  | up _ => exact absurd rfl hname.2.2
  | down _ hdown _ => simp [hnext] at hdown
  | stop _ hstop _ => exact hstop.symm.trans hnext
  | jump _ hjump _ _ => simp [hnext] at hjump

end Inversion

section Trails

variable {s : Store} {followsLast : Bool} {here : Address} {names : List String}
variable {links : List Address} {address : Address} {entry : Option Entry}

/-- What is found at the end of a trail is stored there. -/
theorem Trail.get?_eq (htrail : s.Trail followsLast here names links address entry)
    (hentry : entry ≠ some .directory) : s.get? address = entry := by
  induction htrail with
  | arrive => exact absurd rfl hentry
  | stay _ _ ih | up _ ih | down _ _ _ ih | jump _ _ _ _ ih => exact ih hentry
  | stop _ hnext _ => exact hnext

/-- A path that is followed to its end does not end at a link. -/
theorem Trail.ne_link (htrail : s.Trail true here names links address entry) (target : Path) :
    entry ≠ some (.link target) := by
  induction htrail with
  | arrive => simp
  | stay _ _ ih | up _ ih | down _ _ _ ih | jump _ _ _ _ ih => exact ih
  | stop _ _ hend =>
      rintro rfl
      exact absurd (hend.2 target rfl) (by decide)

/-- The links of a trail are stored as links. -/
theorem Trail.isLink (htrail : s.Trail followsLast here names links address entry) :
    ∀ link ∈ links, ∃ target, s.get? link = some (.link target) := by
  induction htrail with
  | arrive | stop _ _ _ => simp
  | stay _ _ ih | up _ ih | down _ _ _ ih => exact ih
  | @jump _ _ _ target _ _ _ _ hnext _ _ ih =>
      intro link hlink
      rcases List.mem_cons.mp hlink with rfl | hlink
      · exact ⟨target, hnext⟩
      · exact ih link hlink

/-- A trail that does not end at a link follows all links anyway. -/
theorem Trail.to_followed (htrail : s.Trail followsLast here names links address entry)
    (hentry : ∀ target, entry ≠ some (.link target)) :
    s.Trail true here names links address entry := by
  induction htrail with
  | arrive => exact .arrive
  | stay hname _ ih => exact .stay hname (ih hentry)
  | up _ ih => exact .up (ih hentry)
  | down hname hnext _ ih => exact .down hname hnext (ih hentry)
  | stop hname hnext hend =>
      exact .stop hname hnext ⟨hend.1, fun target htarget => absurd htarget (hentry target)⟩
  | jump hname hnext _ _ ih => exact .jump hname hnext (Or.inr rfl) (ih hentry)

theorem Trail.to_directory (htrail : s.Trail followsLast here names links address entry)
    (hentry : entry = some .directory) : s.Trail true here names links address entry :=
  htrail.to_followed (by simp [hentry])

/-- What can be opened has a name that leads to it. -/
theorem Trail.exists_named (htrail : s.Trail true here names links address entry) :
    ∃ others place found, s.Trail false here names others place found ∧
      others.length ≤ links.length ∧ (entry ≠ none → found ≠ none) := by
  induction htrail with
  | arrive => exact ⟨_, _, _, .arrive, Nat.le_refl _, id⟩
  | stay hname _ ih =>
      obtain ⟨_, _, _, hnamed, hlength, hfound⟩ := ih
      exact ⟨_, _, _, .stay hname hnamed, hlength, hfound⟩
  | up _ ih =>
      obtain ⟨_, _, _, hnamed, hlength, hfound⟩ := ih
      exact ⟨_, _, _, .up hnamed, hlength, hfound⟩
  | down hname hnext _ ih =>
      obtain ⟨_, _, _, hnamed, hlength, hfound⟩ := ih
      exact ⟨_, _, _, .down hname hnext hnamed, hlength, hfound⟩
  | stop hname hnext hend =>
      exact ⟨_, _, _, .stop hname hnext ⟨hend.1, fun _ _ => rfl⟩, Nat.le_refl _, id⟩
  | @jump _ _ rest _ _ _ _ hname hnext _ _ ih =>
      cases rest with
      | nil =>
          exact ⟨_, _, _, .stop hname hnext ⟨by simp, fun _ _ => rfl⟩, Nat.zero_le _, by simp⟩
      | cons first others =>
          obtain ⟨_, _, _, hnamed, hlength, hfound⟩ := ih
          exact ⟨_, _, _, .jump hname hnext (Or.inl (by simp)) hnamed, Nat.succ_le_succ hlength,
            hfound⟩

/-- Following a link at the end makes a trail longer, but leads no other way. -/
theorem Trail.links_prefix {follows : Bool} {others : List Address} {address' : Address}
    {entry' : Option Entry} (htrail : s.Trail followsLast here names links address entry)
    (hother : s.Trail follows here names others address' entry')
    (hfollows : followsLast = true → follows = true) : links <+: others := by
  induction htrail generalizing others with
  | arrive | stop _ _ _ => exact List.nil_prefix
  | stay hname _ ih => exact ih (hother.of_stay hname)
  | up _ ih => exact ih hother.of_up
  | down hname hnext _ ih => exact ih (hother.of_directory hname hnext)
  | jump hname hnext hfollowed _ ih =>
      obtain ⟨others, rfl, hrest⟩ := hother.of_link hname hnext (hfollowed.imp_right hfollows)
      exact List.prefix_cons_iff.mpr (Or.inr ⟨_, rfl, ih hrest⟩)

/-- A path leads one way only. -/
theorem Trail.links_unique {others : List Address} {address' : Address} {entry' : Option Entry}
    (htrail : s.Trail followsLast here names links address entry)
    (hother : s.Trail followsLast here names others address' entry') : links = others :=
  (htrail.links_prefix hother id).eq_of_length_le (hother.links_prefix htrail id).length_le

end Trails

/-- A later state of a store, in which files may differ and links may be gone. -/
structure Later (s s' : Store) : Prop where
  directory : ∀ address, s'.get? address = some .directory ↔ s.get? address = some .directory
  link : ∀ address target,
    s'.get? address = some (.link target) → s.get? address = some (.link target)

namespace Later

variable {s s' s'' : Store} {address : Address}

theorem refl (s : Store) : s.Later s := ⟨fun _ => Iff.rfl, fun _ _ => id⟩

theorem trans (hfirst : s.Later s') (hsecond : s'.Later s'') : s.Later s'' where
  directory := fun address => (hsecond.directory address).trans (hfirst.directory address)
  link := fun address target hlink => hfirst.link address target (hsecond.link address target hlink)

/-- A file may be written where there is nothing or a file. -/
theorem put (hdirectory : s.get? address ≠ some .directory) (content : Bytes) :
    s.Later (s.put address (.file content)) where
  directory := by
    intro other
    rw [get?_put (ne_nil_of_get?_ne hdirectory)]
    split
    · next hother => simp [hother, hdirectory]
    · exact Iff.rfl
  link := by
    intro other target
    rw [get?_put (ne_nil_of_get?_ne hdirectory)]
    split
    · simp
    · exact id

theorem erase (hdirectory : s.get? address ≠ some .directory) : s.Later (s.erase address) where
  directory := by
    intro other
    rw [get?_erase (ne_nil_of_get?_ne hdirectory)]
    split
    · next hother => simp [hother, hdirectory]
    · exact Iff.rfl
  link := by
    intro other target
    rw [get?_erase (ne_nil_of_get?_ne hdirectory)]
    split
    · simp
    · exact id

variable {followsLast : Bool} {here : Address} {names : List String} {links : List Address}

/-- A path leads where it led while the links on its way are kept. -/
theorem trail {entry entry' : Option Entry} (hlater : s.Later s')
    (htrail : s.Trail followsLast here names links address entry)
    (hentry : entry ≠ some .directory) (hlinks : ∀ link ∈ links, s'.get? link = s.get? link)
    (hstored : s'.get? address = entry') (hend : CanEnd followsLast entry') :
    s'.Trail followsLast here names links address entry' := by
  induction htrail with
  | arrive => exact absurd rfl hentry
  | stay hname _ ih => exact .stay hname (ih hentry hlinks hstored)
  | up _ ih => exact .up (ih hentry hlinks hstored)
  | down hname hnext _ ih =>
      exact .down hname ((hlater.directory _).mpr hnext) (ih hentry hlinks hstored)
  | stop hname _ _ => exact .stop hname hstored hend
  | jump hname hnext hfollowed _ ih =>
      rw [← hlinks _ List.mem_cons_self] at hnext
      exact .jump hname hnext hfollowed
        (ih hentry (fun link hlink => hlinks link (List.mem_cons_of_mem _ hlink)) hstored)

/-- A path that leads to a file or a link has led to the same place before. -/
theorem trail_before {entry : Option Entry} (hlater : s.Later s')
    (htrail : s'.Trail false here names links address entry) (hentry : entry ≠ some .directory) :
    s.Trail false here names links address (s.get? address) := by
  induction htrail with
  | arrive => exact absurd rfl hentry
  | stay hname _ ih => exact .stay hname (ih hentry)
  | up _ ih => exact .up (ih hentry)
  | down hname hnext _ ih => exact .down hname ((hlater.directory _).mp hnext) (ih hentry)
  | stop hname hnext _ =>
      refine .stop hname rfl ⟨fun hdirectory => hentry ?_, fun _ _ => rfl⟩
      rw [← hnext]
      exact (hlater.directory _).mpr hdirectory
  | jump hname hnext hfollowed _ ih =>
      exact .jump hname (hlater.link _ _ hnext) hfollowed (ih hentry)

/-- A path that leads to a directory has led there before. -/
theorem directory_before {entry : Option Entry} (hlater : s.Later s')
    (htrail : s'.Trail followsLast here names links address entry)
    (hentry : entry = some .directory) :
    s.Trail followsLast here names links address (some .directory) := by
  induction htrail with
  | arrive => exact .arrive
  | stay hname _ ih => exact .stay hname (ih hentry)
  | up _ ih => exact .up (ih hentry)
  | down hname hnext _ ih => exact .down hname ((hlater.directory _).mp hnext) (ih hentry)
  | stop _ _ hend => exact absurd hentry hend.1
  | jump hname hnext hfollowed _ ih =>
      exact .jump hname (hlater.link _ _ hnext) hfollowed (ih hentry)

/-- If nothing was added since, a path that leads to a file has led to that file before. -/
theorem file_before {entry : Option Entry} {content : Bytes} (hlater : s.Later s')
    (hstored : ∀ address, s'.get? address = s.get? address ∨ s'.get? address = none)
    (htrail : s'.Trail followsLast here names links address entry)
    (hentry : entry = some (.file content)) :
    s.Trail followsLast here names links address (some (.file content)) := by
  induction htrail with
  | arrive => cases hentry
  | stay hname _ ih => exact .stay hname (ih hentry)
  | up _ ih => exact .up (ih hentry)
  | down hname hnext _ ih => exact .down hname ((hlater.directory _).mp hnext) (ih hentry)
  | @stop here name _ hname hnext hend =>
      subst hentry
      rcases hstored (here ++ [name]) with hsame | hgone
      · exact .stop hname (hsame.symm.trans hnext) hend
      · rw [hnext] at hgone
        cases hgone
  | jump hname hnext hfollowed _ ih =>
      exact .jump hname (hlater.link _ _ hnext) hfollowed (ih hentry)

/-- A path leads to no file any more when a link on its way is gone. -/
theorem not_trail_of_lost {entry : Option Entry} {lost : Address} (hlater : s.Later s')
    (htrail : s.Trail true here names links address entry) (hmem : lost ∈ links)
    (hlost : s'.get? lost = none)
    (hlinks : ∀ link ∈ links, s'.get? link = s.get? link ∨ s'.get? link = none)
    {others : List Address} {address' : Address} {content : Bytes} :
    ¬ s'.Trail true here names others address' (some (.file content)) := by
  intro hother
  induction htrail generalizing others with
  | arrive | stop _ _ _ => cases hmem
  | stay hname _ ih => exact ih hmem hlinks (hother.of_stay hname)
  | up _ ih => exact ih hmem hlinks hother.of_up
  | down hname hnext _ ih =>
      exact ih hmem hlinks (hother.of_directory hname ((hlater.directory _).mpr hnext))
  | jump hname hnext hfollowed _ ih =>
      rcases hlinks _ List.mem_cons_self with hkept | hnone
      · rw [hnext] at hkept
        obtain ⟨others, rfl, hrest⟩ := hother.of_link hname hkept hfollowed
        rcases List.mem_cons.mp hmem with rfl | hmem
        · simp [hlost] at hkept
        · exact ih hmem (fun link hlink => hlinks link (List.mem_cons_of_mem _ hlink)) hrest
      · cases hother.eq_none hname hnone

end Later

end Store

end MutationTesting.Files
