import MutationTesting.Files.FileSystem

/-!
# What file operations change

Putting an entry into a store or erasing one changes what is stored at its address only.  So a write
changes the place that its path leads to and nothing else, and a removal takes away one file or one
link.
-/

namespace MutationTesting.Files

namespace Store

theorem lookup_cons_ite (address other : Address) (entry : Entry)
    (entries : List (Address × Entry)) :
    ((address, entry) :: entries).lookup other =
      if other = address then some entry else entries.lookup other := by
  by_cases hother : other = address
  · rw [if_pos hother, hother, List.lookup_cons_self]
  · rw [if_neg hother, List.lookup_cons, beq_false_of_ne hother]

theorem lookup_replaceAt (address other : Address) (entry : Entry)
    (entries : List (Address × Entry)) :
    (replaceAt address entry entries).lookup other =
      if other = address then some entry else entries.lookup other := by
  induction entries with
  | nil => rw [replaceAt, lookup_cons_ite]
  | cons head tail ih =>
      obtain ⟨a, e⟩ := head
      rw [replaceAt, lookup_cons_ite]
      by_cases ha : a = address
      · subst ha
        rw [if_pos rfl, lookup_cons_ite]
        split <;> rfl
      · rw [if_neg ha, lookup_cons_ite, ih]
        by_cases hother : other = a
        · rw [if_pos hother, if_neg (hother ▸ ha), if_pos hother]
        · rw [if_neg hother, if_neg hother]

theorem lookup_filter_ne (address other : Address) (entries : List (Address × Entry)) :
    (entries.filter fun e => !decide (e.1 = address)).lookup other =
      if other = address then none else entries.lookup other := by
  induction entries with
  | nil => rw [List.filter_nil, List.lookup_nil, ite_self]
  | cons head tail ih =>
      obtain ⟨a, e⟩ := head
      rw [lookup_cons_ite]
      by_cases ha : a = address
      · rw [List.filter_cons_of_neg (by simp [ha]), ih, ha]
        split <;> rfl
      · rw [List.filter_cons_of_pos (by simp [ha]), lookup_cons_ite, ih]
        by_cases hother : other = a
        · rw [if_pos hother, if_neg (hother ▸ ha), if_pos hother]
        · rw [if_neg hother, if_neg hother]

variable {s : Store} {address : Address}

theorem get?_put (haddress : address ≠ []) (entry : Entry) (other : Address) :
    (s.put address entry).get? other = if other = address then some entry else s.get? other := by
  by_cases hother : other = []
  · subst hother
    simp [get?, Ne.symm haddress]
  · simp [get?, hother, put, lookup_replaceAt]

theorem get?_erase (haddress : address ≠ []) (other : Address) :
    (s.erase address).get? other = if other = address then none else s.get? other := by
  by_cases hother : other = []
  · subst hother
    simp [get?, Ne.symm haddress]
  · simp [get?, hother, erase, lookup_filter_ne]

theorem ne_nil_of_get?_ne (hentry : s.get? address ≠ some .directory) : address ≠ [] := by
  rintro rfl
  exact hentry rfl

end Store

namespace FileSystem

variable {fs fs' : FileSystem} {path : Path} {content : Bytes}

theorem read_eq_ok_iff : fs.read path = .ok content ↔
    ∃ address, fs.store.locate true fs.directory path = .ok (address, some (.file content)) := by
  rw [read]
  cases hlocate : fs.store.locate true fs.directory path with
  | error e => simp [bind, Except.bind]
  | ok place =>
      obtain ⟨address, _ | (_ | _ | _)⟩ := place <;>
        simp [bind, Except.bind, pure, Except.pure, throw, throwThe, MonadExceptOf.throw]

theorem write_of_locate {address : Address} {entry : Option Entry}
    (hlocate : fs.store.locate true fs.directory path = .ok (address, entry))
    (hentry : entry ≠ some .directory) :
    fs.write path content = .ok { fs with store := fs.store.put address (.file content) } := by
  rw [write, hlocate]
  obtain _ | (_ | _ | _) := entry
  · rfl
  · rfl
  · rfl
  · exact absurd rfl hentry

/-- A write puts its content where the path leads. -/
theorem exists_locate_of_write (hwrite : fs.write path content = .ok fs') :
    ∃ address entry, fs.store.locate true fs.directory path = .ok (address, entry) ∧
      entry ≠ some .directory ∧
        fs' = { fs with store := fs.store.put address (.file content) } := by
  cases hlocate : fs.store.locate true fs.directory path with
  | error e =>
      rw [write, hlocate] at hwrite
      cases hwrite
  | ok place =>
      obtain ⟨address, entry⟩ := place
      have hentry : entry ≠ some .directory := by
        rintro rfl
        rw [write, hlocate] at hwrite
        cases hwrite
      rw [write_of_locate hlocate hentry] at hwrite
      cases hwrite
      exact ⟨address, entry, rfl, hentry, rfl⟩

theorem remove_of_locate {address : Address} {entry : Entry}
    (hlocate : fs.store.locate false fs.directory path = .ok (address, some entry))
    (hentry : entry ≠ .directory) :
    fs.remove path = .ok { fs with store := fs.store.erase address } := by
  rw [remove, hlocate]
  cases entry with
  | file content => rfl
  | link target => rfl
  | directory => exact absurd rfl hentry

/-- A removal takes away a file or a link. -/
theorem exists_locate_of_remove (hremove : fs.remove path = .ok fs') :
    ∃ address entry, fs.store.locate false fs.directory path = .ok (address, some entry) ∧
      entry ≠ .directory ∧ fs' = { fs with store := fs.store.erase address } := by
  cases hlocate : fs.store.locate false fs.directory path with
  | error e =>
      rw [remove, hlocate] at hremove
      cases hremove
  | ok place =>
      obtain ⟨address, _ | entry⟩ := place
      · rw [remove, hlocate] at hremove
        cases hremove
      · have hentry : entry ≠ .directory := by
          rintro rfl
          rw [remove, hlocate] at hremove
          cases hremove
        rw [remove_of_locate hlocate hentry] at hremove
        cases hremove
        exact ⟨address, entry, rfl, hentry, rfl⟩

end FileSystem

end MutationTesting.Files
