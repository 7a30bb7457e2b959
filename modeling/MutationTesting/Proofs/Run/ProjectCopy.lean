import MutationTesting.Proofs.Files.Inside
import MutationTesting.Proofs.Files.Listing
import MutationTesting.Proofs.Files.NormalPath
import MutationTesting.Proofs.Number.Digits
import MutationTesting.Run.Pool

/-!
# A copy of a project

A copy holds what the project holds, except below names that are not copied.  Making it changes
nothing that was there before.
-/

namespace MutationTesting.Run

open MutationTesting.Files
open MutationTesting.Files.FileSystem (pathOf plant)
open MutationTesting.Files.Path (IsComponent)

/-- The store with entries put below an address, unless they have a name that is not copied. -/
def copyEntries (s : Store) (target : Address) (entries : List (Address × Entry)) : Store :=
  entries.foldl
    (fun s (place, entry) => if place.any isIgnored then s else s.put (target ++ place) entry) s

section Entries

variable {s : Store} {target address place : Address} {entries : List (Address × Entry)}
variable {entry : Entry}

theorem copyTree_eq (s : Store) (source target : Address) :
    copyTree s source target =
      copyEntries (plant s target .directory) target (s.below source) := rfl

theorem copyEntries_cons (s : Store) (target place : Address) (entry : Entry)
    (entries : List (Address × Entry)) :
    copyEntries s target ((place, entry) :: entries) =
      copyEntries (if place.any isIgnored then s else s.put (target ++ place) entry) target
        entries := rfl

theorem get?_copyEntries_of_ne (htarget : target ≠ [])
    (haddress : ∀ place ∈ entries.map Prod.fst, place.any isIgnored = false →
      address ≠ target ++ place) :
    (copyEntries s target entries).get? address = s.get? address := by
  induction entries generalizing s with
  | nil => rfl
  | cons head tail ih =>
      obtain ⟨place, entry⟩ := head
      rw [List.map_cons, List.forall_mem_cons] at haddress
      rw [copyEntries_cons, ih haddress.2]
      cases hignored : place.any isIgnored with
      | true => rfl
      | false =>
          rw [if_neg (by decide), Store.get?_put (by simp [htarget]),
            if_neg (haddress.1 hignored)]

theorem get?_copyEntries_of_mem (htarget : target ≠ []) (hnodup : (entries.map Prod.fst).Nodup)
    (hmem : (place, entry) ∈ entries) (hcopied : place.any isIgnored = false) :
    (copyEntries s target entries).get? (target ++ place) = some entry := by
  induction entries generalizing s with
  | nil => cases hmem
  | cons head tail ih =>
      obtain ⟨first, found⟩ := head
      rw [List.map_cons, List.nodup_cons] at hnodup
      rw [copyEntries_cons]
      rcases List.mem_cons.mp hmem with hhead | htail
      · cases hhead
        rw [get?_copyEntries_of_ne htarget, hcopied, if_neg (by decide),
          Store.get?_put (by simp [htarget]), if_pos rfl]
        rintro other hother - hsame
        exact hnodup.1 (List.append_cancel_left hsame ▸ hother)
      · exact ih hnodup.2 htail

theorem distinct_copyEntries (hdistinct : s.Distinct) (target : Address)
    (entries : List (Address × Entry)) : (copyEntries s target entries).Distinct := by
  induction entries generalizing s with
  | nil => exact hdistinct
  | cons head tail ih =>
      obtain ⟨place, entry⟩ := head
      rw [copyEntries_cons]
      split
      · exact ih hdistinct
      · exact ih (hdistinct.put _ _)

end Entries

/-- What a copy of a directory holds. -/
def copied (c : Contents) : Contents := fun place => if place.any isIgnored then none else c place

theorem copied_eq_some_iff {c : Contents} {place : Address} {entry : Entry} :
    copied c place = some entry ↔ place.any isIgnored = false ∧ c place = some entry := by
  rw [copied]
  split
  · next hignored => simp [hignored]
  · next hkept => simp [hkept]

/-- Whether a directory is a copy of what another one holds, as far as it goes. -/
structure IsCopy (c : Contents) (s : Store) (root : Address) : Prop where
  /-- The directories above the copy. -/
  above : ∀ upper, upper ≠ [] → upper <+: root → s.get? upper = some .directory
  kept : ∀ place entry, copied c place = some entry → s.get? (root ++ place) = some entry
  left_out : ∀ place, place.any isIgnored = true → s.get? (root ++ place) = none

section Roots

theorem project_congr (a : Assignment) {fs fs' : FileSystem}
    (hsame : fs'.directory = fs.directory) : a.project fs' = a.project fs := by
  rw [Assignment.project, Assignment.project]
  split <;> rw [FileSystem.absolute, FileSystem.absolute, hsame]

theorem Assignment.isComponent_project (a : Assignment) {fs : FileSystem}
    (habsolute : Path.isAbsolute fs.directory = true) :
    ∀ name ∈ Path.names (a.project fs), IsComponent name := by
  rw [Assignment.project]
  split <;> exact Path.isComponent_of_mem_names_absolute habsolute _

/-- The name of the copy of a project. -/
def copyName (project : Path) : String :=
  if Path.baseName project = "" then "project" else Path.baseName project

/-- Where the copy of a project is for a slot. -/
def copyRoot (project : Path) (slot : Nat) : Address := copyParent slot ++ [copyName project]

theorem isComponent_slotName (slot : Nat) :
    IsComponent ("mutascope-" ++ Decimal.ofNat slot ++ "-copy") := by
  have htext : ("mutascope-" ++ Decimal.ofNat slot ++ "-copy").toList =
      'm' :: ("utascope-".toList ++ (Decimal.ofNat slot).toList ++ "-copy".toList) := by
    simp
  have hfirst : ∀ text : String, text.toList.head? ≠ some 'm' →
      "mutascope-" ++ Decimal.ofNat slot ++ "-copy" ≠ text := by
    rintro text hhead rfl
    rw [htext] at hhead
    exact hhead rfl
  refine ⟨⟨hfirst "" (by decide), hfirst "." (by decide), hfirst ".." (by decide)⟩, ?_⟩
  rw [String.toList_append, String.toList_append, List.mem_append, List.mem_append, not_or, not_or]
  refine ⟨⟨by decide, fun hmem => ?_⟩, by decide⟩
  obtain ⟨d, hd, hsame⟩ := Decimal.exists_digit_of_mem_ofNat hmem
  revert hsame
  revert d
  decide

theorem isComponent_of_mem_copyParent (slot : Nat) :
    ∀ name ∈ copyParent slot, IsComponent name := by
  have htmp : IsComponent "tmp" := by decide
  simpa [copyParent] using ⟨htmp, isComponent_slotName slot⟩

/-- The copies of different slots are in different directories. -/
theorem eq_of_copyParent_above {slot other : Nat} {rest : Address}
    (hunder : copyParent slot <+: copyParent other ++ rest) : slot = other := by
  have hsame := (List.prefix_of_prefix_length_le hunder (List.prefix_append _ rest)
    (Nat.le_refl 2)).eq_of_length rfl
  simp only [copyParent, List.cons.injEq, and_true, true_and] at hsame
  rw [String.append_left_inj, String.append_right_inj] at hsame
  exact Decimal.ofNat_injective hsame

theorem isComponent_copyName {project : Path}
    (hproject : ∀ name ∈ Path.names project, IsComponent name) :
    IsComponent (copyName project) := by
  rw [copyName]
  split
  · decide
  · next hbase =>
      apply hproject
      obtain ⟨last, hlast⟩ :=
        Option.isSome_iff_exists.mp (List.getLast?_isSome.mpr (Path.segments_ne_nil project))
      have hsame : Path.baseName project = last := by
        rw [Path.baseName, List.getLastD_eq_getLast?, hlast, Option.getD_some]
      rw [Path.names, List.mem_filter, hsame]
      exact ⟨List.mem_of_getLast? hlast, by simpa [hsame] using hbase⟩

theorem isComponent_of_mem_copyRoot {project : Path} {slot : Nat}
    (hproject : ∀ name ∈ Path.names project, IsComponent name) :
    ∀ name ∈ copyRoot project slot, IsComponent name :=
  Path.isComponent_concat_iff.mpr
    ⟨isComponent_of_mem_copyParent slot, isComponent_copyName hproject⟩

end Roots

section Copying

variable {s : Store} {source : Address} {project : Path} {slot : Nat}

theorem IsCopy.mono {c c' : Contents} {root : Address} (hcopy : IsCopy c s root)
    (hfewer : ∀ place entry, c' place = some entry → c place = some entry) : IsCopy c' s root where
  above := hcopy.above
  kept := by
    intro place entry hentry
    rw [copied_eq_some_iff] at hentry
    exact hcopy.kept place entry
      (copied_eq_some_iff.mpr ⟨hentry.1, hfewer place entry hentry.2⟩)
  left_out := hcopy.left_out

variable (htmp : s.get? ["tmp"] = some .directory)

include htmp

theorem plant_copyRoot (project : Path) (slot : Nat) :
    plant s (copyRoot project slot) .directory =
      (if (s.get? (copyParent slot)).isSome then s else s.put (copyParent slot) .directory).put
        (copyRoot project slot) .directory := by
  have hnames : (copyRoot project slot).dropLast =
      ["tmp", "mutascope-" ++ Decimal.ofNat slot ++ "-copy"] := rfl
  rw [plant, hnames, FileSystem.withDirectory, FileSystem.withDirectory, FileSystem.withDirectory]
  simp only [List.nil_append, htmp, Option.isSome_some, if_true]
  rfl

/-- Copying a project changes nothing but the copy. -/
theorem get?_copyTree_of_outside {address : Address} (houtside : ¬ copyParent slot <+: address) :
    (copyTree s source (copyRoot project slot)).get? address = s.get? address := by
  have hroot : copyParent slot <+: copyRoot project slot := List.prefix_append _ _
  have hne : ∀ place, address ≠ copyRoot project slot ++ place := by
    rintro place rfl
    exact houtside (hroot.trans (List.prefix_append _ _))
  rw [copyTree_eq, plant_copyRoot htmp, get?_copyEntries_of_ne (by simp [copyRoot])
      (fun place _ _ => hne place), Store.get?_put (by simp [copyRoot]),
    if_neg (by simpa using hne [])]
  split
  · rfl
  · rw [Store.get?_put (by simp [copyParent]), if_neg]
    rintro rfl
    exact houtside (List.prefix_refl _)

variable (hfree : ∀ rest, s.get? (copyParent slot ++ rest) = none)

include hfree

theorem plant_copyRoot_of_free (project : Path) :
    plant s (copyRoot project slot) .directory =
      (s.put (copyParent slot) .directory).put (copyRoot project slot) .directory := by
  have hparent : s.get? (copyParent slot) = none := by simpa using hfree []
  rw [plant_copyRoot htmp, hparent, if_neg (by decide)]

theorem get?_copyTree_of_stored {address : Address} {entry : Entry}
    (hstored : s.get? address = some entry) :
    (copyTree s source (copyRoot project slot)).get? address = some entry := by
  rw [get?_copyTree_of_outside htmp, hstored]
  rintro ⟨rest, rfl⟩
  rw [hfree] at hstored
  cases hstored

theorem distinct_copyTree (hdistinct : s.Distinct) :
    (copyTree s source (copyRoot project slot)).Distinct := by
  rw [copyTree_eq, plant_copyRoot_of_free htmp hfree]
  exact distinct_copyEntries ((hdistinct.put _ _).put _ _) _ _

theorem get?_copyTree_root (hdistinct : s.Distinct) :
    (copyTree s source (copyRoot project slot)).get? (copyRoot project slot) =
      some .directory := by
  have hne : copyRoot project slot ≠ [] := by simp [copyRoot]
  rw [copyTree_eq, plant_copyRoot_of_free htmp hfree, get?_copyEntries_of_ne hne,
    Store.get?_put hne, if_pos rfl]
  intro place hmem _ hsame
  obtain ⟨⟨_, entry⟩, hbelow, rfl⟩ := List.mem_map.mp hmem
  exact ((Store.mem_below_iff hdistinct).mp hbelow).1 (List.self_eq_append_right.mp hsame)

theorem get?_copyTree_parent :
    (copyTree s source (copyRoot project slot)).get? (copyParent slot) = some .directory := by
  have hne : copyRoot project slot ≠ [] := by simp [copyRoot]
  rw [copyTree_eq, plant_copyRoot_of_free htmp hfree, get?_copyEntries_of_ne hne,
    Store.get?_put hne, if_neg (by simp [copyRoot]), Store.get?_put (by simp [copyParent]),
    if_pos rfl]
  intro place _ _ hsame
  simp [copyRoot] at hsame

theorem get?_copyTree_of_not_copied {place : Address} (hplace : place ≠ [])
    (hother : ∀ copied ∈ (s.below source).map Prod.fst, copied.any isIgnored = false →
      place ≠ copied) :
    (copyTree s source (copyRoot project slot)).get? (copyRoot project slot ++ place) = none := by
  have hne : copyRoot project slot ≠ [] := by simp [copyRoot]
  rw [copyTree_eq, plant_copyRoot_of_free htmp hfree, get?_copyEntries_of_ne hne,
    Store.get?_put hne, if_neg (by simpa using hplace), Store.get?_put (by simp [copyParent]), if_neg, copyRoot,
    List.append_assoc, hfree]
  · simp [copyRoot]
  · intro copied hmem hcopied hsame
    exact hother copied hmem hcopied (List.append_cancel_left hsame)

theorem get?_copyTree_of_ignored {place : Address} (hignored : place.any isIgnored = true) :
    (copyTree s source (copyRoot project slot)).get? (copyRoot project slot ++ place) = none := by
  refine get?_copyTree_of_not_copied htmp hfree ?_ ?_
  · rintro rfl
    cases hignored
  · rintro copied - hcopied rfl
    rw [hcopied] at hignored
    cases hignored

/-- A copy holds nothing that its source does not hold. -/
theorem get?_copyTree_of_missing (hdistinct : s.Distinct)
    (hsource : s.get? source = some .directory) {place : Address}
    (hmissing : s.inside source place = none) :
    (copyTree s source (copyRoot project slot)).get? (copyRoot project slot ++ place) = none := by
  refine get?_copyTree_of_not_copied htmp hfree ?_ ?_
  · rintro rfl
    rw [Store.inside, List.append_nil, hsource] at hmissing
    cases hmissing
  · rintro copied hmem - rfl
    obtain ⟨⟨_, entry⟩, hbelow, rfl⟩ := List.mem_map.mp hmem
    have hstored := ((Store.mem_below_iff hdistinct).mp hbelow).2
    rw [Store.inside, hstored] at hmissing
    cases hmissing

theorem isCopy_copyTree (hdistinct : s.Distinct) (hsource : s.get? source = some .directory) :
    IsCopy (s.inside source) (copyTree s source (copyRoot project slot))
      (copyRoot project slot) where
  above := by
    intro upper hupper hunder
    rcases List.prefix_concat_iff.mp hunder with rfl | hunder
    · exact get?_copyTree_root htmp hfree hdistinct
    · rcases List.prefix_cons_iff.mp hunder with rfl | ⟨rest, rfl, hrest⟩
      · exact absurd rfl hupper
      · rcases List.prefix_cons_iff.mp hrest with rfl | ⟨more, rfl, hmore⟩
        · exact get?_copyTree_of_stored htmp hfree htmp
        · rw [List.prefix_nil.mp hmore]
          exact get?_copyTree_parent htmp hfree
  kept := by
    intro place entry hentry
    obtain ⟨hkept, hstored⟩ := copied_eq_some_iff.mp hentry
    by_cases hnil : place = []
    · subst hnil
      rw [Store.inside, List.append_nil, hsource] at hstored
      rw [List.append_nil, get?_copyTree_root htmp hfree hdistinct, hstored]
    · exact get?_copyEntries_of_mem (by simp [copyRoot]) (Store.nodup_below hdistinct source)
        ((Store.mem_below_iff hdistinct).mpr ⟨hnil, hstored⟩) hkept
  left_out := fun _ => get?_copyTree_of_ignored htmp hfree

/-- A copy holds what its source holds, except below names that are not copied. -/
theorem inside_copyTree (hdistinct : s.Distinct) (hsource : s.get? source = some .directory) :
    (copyTree s source (copyRoot project slot)).inside (copyRoot project slot) =
      copied (s.inside source) := by
  have hcopy : IsCopy (s.inside source) (copyTree s source (copyRoot project slot))
      (copyRoot project slot) := isCopy_copyTree htmp hfree hdistinct hsource
  funext place
  cases hplace : copied (s.inside source) place with
  | some entry => exact hcopy.kept place entry hplace
  | none =>
      rw [copied] at hplace
      split at hplace
      · next hignored => exact hcopy.left_out place hignored
      · exact get?_copyTree_of_missing htmp hfree hdistinct hsource hplace

end Copying

section Sandboxes

variable {w w' : Workshop} {project copy : Path} {slot : Nat}

/-- A slot has a copy already, or gets one. -/
theorem sandboxOf_eq_ok (hsandbox : sandboxOf w project slot = .ok (w', copy)) :
    w' = w ∧ w.sandboxes.lookup slot = some copy ∨
      w.sandboxes.lookup slot = none ∧ copy = pathOf (copyRoot project slot) ∧
        ∃ source, w.files.store.locate true w.files.directory project =
            .ok (source, some .directory) ∧
          w' = { w with
            files := { w.files with
              store := copyTree w.files.store source (copyRoot project slot) }
            sandboxes := w.sandboxes ++ [(slot, copy)] } := by
  rw [sandboxOf] at hsandbox
  cases hlookup : w.sandboxes.lookup slot with
  | some known =>
      rw [hlookup] at hsandbox
      cases hsandbox
      exact Or.inl ⟨rfl, rfl⟩
  | none =>
      rw [hlookup] at hsandbox
      cases hlocate : w.files.store.locate true w.files.directory project with
      | error e =>
          simp only [hlocate] at hsandbox
          cases hsandbox
      | ok place =>
          obtain ⟨source, entry⟩ := place
          simp only [hlocate] at hsandbox
          obtain _ | (_ | _ | _) := entry
          · cases hsandbox
          · cases hsandbox
          · cases hsandbox
          · cases hsandbox
            exact Or.inr ⟨rfl, rfl, source, rfl, rfl⟩

theorem directory_of_sandboxOf (hsandbox : sandboxOf w project slot = .ok (w', copy)) :
    w'.files.directory = w.files.directory := by
  rcases sandboxOf_eq_ok hsandbox with ⟨rfl, -⟩ | ⟨-, -, source, -, rfl⟩ <;> rfl

end Sandboxes

end MutationTesting.Run
