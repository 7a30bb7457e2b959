import Mathlib.Data.List.Nodup
import MutationTesting.Proofs.Files.Access

/-!
# What is listed below an address

A store in which nothing is stored twice lists below an address just what can be found there, each
entry once.
-/

namespace MutationTesting.Files.Store

/-- Whether nothing is stored twice. -/
def Distinct (s : Store) : Prop := (s.entries.map Prod.fst).Nodup

instance (s : Store) : Decidable s.Distinct :=
  inferInstanceAs (Decidable (s.entries.map Prod.fst).Nodup)

variable {s : Store} {address root place : Address} {entry : Entry}

theorem map_fst_replaceAt (address : Address) (entry : Entry) (entries : List (Address × Entry)) :
    (replaceAt address entry entries).map Prod.fst = entries.map Prod.fst ∨
      address ∉ entries.map Prod.fst ∧
        (replaceAt address entry entries).map Prod.fst = entries.map Prod.fst ++ [address] := by
  induction entries with
  | nil => exact Or.inr ⟨by simp, rfl⟩
  | cons head tail ih =>
      obtain ⟨a, e⟩ := head
      rw [replaceAt]
      by_cases ha : a = address
      · exact Or.inl (by simp [ha])
      · rw [if_neg ha, List.map_cons, List.map_cons]
        rcases ih with hsame | ⟨hmem, hmore⟩
        · exact Or.inl (by rw [hsame])
        · exact Or.inr ⟨by simpa [Ne.symm ha] using hmem, by rw [hmore, List.cons_append]⟩

theorem Distinct.put (hdistinct : s.Distinct) (address : Address) (entry : Entry) :
    (s.put address entry).Distinct := by
  rw [Distinct, Store.put]
  rcases map_fst_replaceAt address entry s.entries with hsame | ⟨hmem, hmore⟩
  · rw [hsame]
    exact hdistinct
  · rw [hmore, List.nodup_append]
    refine ⟨hdistinct, List.nodup_singleton _, fun other hother => ?_⟩
    rw [List.forall_mem_singleton]
    rintro rfl
    exact hmem hother

theorem Distinct.erase (hdistinct : s.Distinct) (address : Address) : (s.erase address).Distinct :=
  List.Nodup.sublist (List.Sublist.map Prod.fst List.filter_sublist) hdistinct

theorem get?_eq_some_iff (hdistinct : s.Distinct) (haddress : address ≠ []) :
    s.get? address = some entry ↔ (address, entry) ∈ s.entries := by
  rw [get?, if_neg haddress]
  rw [Distinct] at hdistinct
  generalize s.entries = entries at hdistinct
  induction entries with
  | nil => simp
  | cons head tail ih =>
      obtain ⟨a, e⟩ := head
      rw [List.map_cons, List.nodup_cons] at hdistinct
      rw [lookup_cons_ite, List.mem_cons, Prod.mk.injEq]
      by_cases ha : address = a
      · subst ha
        have htail : (address, entry) ∉ tail := fun hmem =>
          hdistinct.1 (List.mem_map.mpr ⟨_, hmem, rfl⟩)
        rw [if_pos rfl, Option.some.injEq, eq_comm]
        exact ⟨fun hentry => Or.inl ⟨rfl, hentry⟩, fun hor => (hor.resolve_right htail).2⟩
      · rw [if_neg ha, ih hdistinct.2]
        exact ⟨Or.inr, fun hor => hor.resolve_left fun hhead => ha hhead.1⟩

theorem below_eq (s : Store) (root : Address) :
    s.below root = (s.entries.filter fun e => root.isPrefixOf e.1 && e.1 ≠ root).map
      fun e => (e.1.drop root.length, e.2) := by
  rw [below]
  induction s.entries with
  | nil => rfl
  | cons head tail ih =>
      obtain ⟨a, e⟩ := head
      rw [List.filterMap_cons, List.filter_cons, ih]
      dsimp only
      cases root.isPrefixOf a && decide (a ≠ root) <;> rfl

/-- What is listed below an address is what is stored there. -/
theorem mem_below_iff (hdistinct : s.Distinct) :
    (place, entry) ∈ s.below root ↔ place ≠ [] ∧ s.get? (root ++ place) = some entry := by
  simp only [below_eq, List.mem_map, List.mem_filter, Bool.and_eq_true, decide_eq_true_eq,
    List.isPrefixOf_iff_prefix]
  constructor
  · rintro ⟨⟨a, e⟩, ⟨hmem, ⟨rest, rfl⟩, hne⟩, hsame⟩
    simp only [List.drop_left, Prod.mk.injEq] at hsame
    obtain ⟨rfl, rfl⟩ := hsame
    have hrest : rest ≠ [] := by
      rintro rfl
      exact hne (List.append_nil root)
    exact ⟨hrest, (get?_eq_some_iff hdistinct (by simp [hrest])).mpr hmem⟩
  · rintro ⟨hplace, hstored⟩
    refine ⟨(root ++ place, entry), ⟨(get?_eq_some_iff hdistinct (by simp [hplace])).mp hstored,
      List.prefix_append root place, by simp [hplace]⟩, by simp⟩

theorem nodup_below (hdistinct : s.Distinct) (root : Address) :
    ((s.below root).map Prod.fst).Nodup := by
  have hkeys : (s.below root).map Prod.fst =
      ((s.entries.filter fun e => root.isPrefixOf e.1 && e.1 ≠ root).map Prod.fst).map
        (List.drop root.length) := by
    rw [below_eq, List.map_map, List.map_map]
    rfl
  rw [hkeys]
  refine List.Nodup.map_on ?_ (hdistinct.sublist (List.filter_sublist.map Prod.fst))
  simp only [List.mem_map, List.mem_filter, Bool.and_eq_true, List.isPrefixOf_iff_prefix]
  rintro _ ⟨e, ⟨_, ⟨rest, hrest⟩, _⟩, rfl⟩ _ ⟨e', ⟨_, ⟨rest', hrest'⟩, _⟩, rfl⟩ hdrop
  rw [← hrest, ← hrest', List.drop_left, List.drop_left] at hdrop
  rw [← hrest, ← hrest', hdrop]

end MutationTesting.Files.Store
