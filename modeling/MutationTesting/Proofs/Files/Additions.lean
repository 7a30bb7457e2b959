import MutationTesting.Proofs.Files.Trail

/-!
# Additions to a store

A path that leads to a file or a directory still leads there when things are added elsewhere.
Erasing what was added leaves what was there before.
-/

namespace MutationTesting.Files

namespace Store

/-- Everything stored is still stored, and maybe more. -/
def Grows (s s' : Store) : Prop :=
  ∀ address entry, s.get? address = some entry → s'.get? address = some entry

variable {s s' : Store} {followsLast : Bool} {here address : Address} {names : List String}
variable {links : List Address} {entry : Option Entry}

theorem Grows.trail (hgrows : s.Grows s')
    (htrail : s.Trail followsLast here names links address entry) (hentry : entry ≠ none) :
    s'.Trail followsLast here names links address entry := by
  induction htrail with
  | arrive => exact .arrive
  | stay hname _ ih => exact .stay hname (ih hentry)
  | up _ ih => exact .up (ih hentry)
  | down hname hnext _ ih => exact .down hname (hgrows _ _ hnext) (ih hentry)
  | stop hname hnext hend =>
      obtain ⟨found, rfl⟩ := Option.ne_none_iff_exists'.mp hentry
      exact .stop hname (hgrows _ _ hnext) hend
  | jump hname hnext hfollowed _ ih => exact .jump hname (hgrows _ _ hnext) hfollowed (ih hentry)

theorem Grows.locate (hgrows : s.Grows s') {directory path : Path} {found : Entry}
    (hlocate : s.locate followsLast directory path = .ok (address, some found)) :
    s'.locate followsLast directory path = .ok (address, some found) := by
  obtain ⟨hpath, links, hlength, htrail⟩ := locate_eq_ok_iff.mp hlocate
  exact locate_eq_ok_iff.mpr ⟨hpath, links, hlength, hgrows.trail htrail (by simp)⟩

/-- A trail from the root to a directory leads over directories that are stored. -/
theorem Trail.stored_directory (htrail : s.Trail followsLast here names links address entry)
    (hentry : entry = some .directory)
    (hhere : ∀ upper, upper <+: here → s.get? upper = some .directory) :
    ∀ upper, upper <+: address → s.get? upper = some .directory := by
  have hbelow : ∀ {here : Address} {name : String},
      (∀ upper, upper <+: here → s.get? upper = some .directory) →
      s.get? (here ++ [name]) = some .directory →
        ∀ upper, upper <+: here ++ [name] → s.get? upper = some .directory := by
    intro here name hhere hnext upper hupper
    rcases List.prefix_concat_iff.mp hupper with rfl | hupper
    · exact hnext
    · exact hhere upper hupper
  induction htrail with
  | arrive => exact hhere
  | stay _ _ ih => exact ih hentry hhere
  | up _ ih =>
      exact ih hentry fun upper hupper => hhere upper (hupper.trans (List.dropLast_prefix _))
  | down _ hnext _ ih => exact ih hentry (hbelow hhere hnext)
  | stop _ _ hend => exact absurd hentry hend.1
  | @jump here name rest target _ _ _ _ _ _ _ ih =>
      refine ih hentry fun upper hupper => ?_
      rw [targetBase] at hupper
      split at hupper
      · rw [List.prefix_nil.mp hupper]
        rfl
      · exact hhere upper hupper

theorem get?_of_locate_directory {directory path : Path}
    (hlocate : s.locate followsLast directory path = .ok (address, some .directory)) :
    s.get? address = some .directory := by
  obtain ⟨-, links, -, htrail⟩ := locate_eq_ok_iff.mp hlocate
  refine htrail.stored_directory rfl (fun upper hupper => ?_) address (List.prefix_refl address)
  rw [List.prefix_nil.mp hupper]
  rfl

theorem get?_eraseTree {erased : Address} (herased : erased ≠ []) (s : Store) (address : Address) :
    (s.eraseTree erased).get? address =
      if erased.isPrefixOf address then none else s.get? address := by
  by_cases haddress : address = []
  · subst haddress
    cases erased with
    | nil => exact absurd rfl herased
    | cons first rest => rfl
  · rw [get?, get?, if_neg haddress, if_neg haddress, eraseTree]
    induction s.entries with
    | nil => exact (ite_self none).symm
    | cons head tail ih =>
        obtain ⟨a, e⟩ := head
        rw [List.filter_cons, lookup_cons_ite]
        by_cases hsame : address = a
        · subst hsame
          cases hunder : erased.isPrefixOf address with
          | true => simpa [hunder] using ih
          | false => simp
        · cases hunder : erased.isPrefixOf a with
          | true => simpa [hunder, hsame] using ih
          | false => simpa [hunder, hsame, lookup_cons_ite] using ih

end Store

namespace FileSystem

end FileSystem

end MutationTesting.Files
