import Mathlib.Data.Finset.Card
import MutationTesting.Proofs.Files.Trail

/-!
# The real address of a path

The real address of a path is found by resolving each link on its own before the next name is
followed.  For a path that can be opened this comes to the place that the path leads to.  No link is
met again while it is resolved: it would have to be resolved in fewer steps than itself.
-/

namespace MutationTesting.Files

namespace Store

/-- Names lead to an address when every link is resolved before the next name.  The number counts
the links, those inside other links too. -/
inductive Leads (s : Store) : Nat → Address → List String → Address → Prop
  | arrive {here : Address} : Leads s 0 here [] here
  | stay {count : Nat} {here : Address} {name : String} {rest : List String} {address : Address}
      (hname : name = "" ∨ name = ".") (hrest : Leads s count here rest address) :
      Leads s count here (name :: rest) address
  | up {count : Nat} {here : Address} {rest : List String} {address : Address}
      (hrest : Leads s count here.dropLast rest address) : Leads s count here (".." :: rest) address
  | down {count : Nat} {here : Address} {name : String} {rest : List String} {address : Address}
      (hname : IsName name) (hnext : ∀ target, s.get? (here ++ [name]) ≠ some (.link target))
      (hrest : Leads s count (here ++ [name]) rest address) :
      Leads s count here (name :: rest) address
  | jump {inner outer : Nat} {here : Address} {name : String} {rest : List String} {target : Path}
      {place address : Address} (hname : IsName name)
      (hnext : s.get? (here ++ [name]) = some (.link target))
      (hlink : Leads s inner (targetBase here target) (Path.segments target) place)
      (hrest : Leads s outer place rest address) :
      Leads s (inner + outer + 1) here (name :: rest) address

variable {s : Store} {here address : Address} {names : List String}

/-- Following some names and then others passes through a place between them. -/
theorem Leads.exists_of_append {count : Nat} {others : List String}
    (hleads : s.Leads count here (names ++ others) address) :
    ∃ inner outer place, inner + outer = count ∧ s.Leads inner here names place ∧
      s.Leads outer place others address := by
  induction names generalizing here count with
  | nil => exact ⟨0, count, here, Nat.zero_add count, .arrive, hleads⟩
  | cons name rest ih =>
      cases hleads with
      | stay hname hrest =>
          obtain ⟨inner, outer, place, hcount, hfirst, hsecond⟩ := ih hrest
          exact ⟨inner, outer, place, hcount, .stay hname hfirst, hsecond⟩
      | up hrest =>
          obtain ⟨inner, outer, place, hcount, hfirst, hsecond⟩ := ih hrest
          exact ⟨inner, outer, place, hcount, .up hfirst, hsecond⟩
      | down hname hnext hrest =>
          obtain ⟨inner, outer, place, hcount, hfirst, hsecond⟩ := ih hrest
          exact ⟨inner, outer, place, hcount, .down hname hnext hfirst, hsecond⟩
      | @jump linkCount _ _ _ _ _ _ _ hname hnext hlink hrest =>
          obtain ⟨inner, outer, place, hcount, hfirst, hsecond⟩ := ih hrest
          exact ⟨linkCount + inner + 1, outer, place, by omega, .jump hname hnext hlink hfirst,
            hsecond⟩

/-- A trail gives the way with every link resolved on its own. -/
theorem Trail.leads {links : List Address} {entry : Option Entry}
    (htrail : s.Trail true here names links address entry) :
    s.Leads links.length here names address := by
  induction htrail with
  | arrive => exact .arrive
  | stay hname _ ih => exact .stay hname ih
  | up _ ih => exact .up ih
  | down hname hnext _ ih => exact .down hname (by simp [hnext]) ih
  | stop hname hnext hend =>
      refine .down hname (fun target hlink => ?_) .arrive
      exact absurd (hend.2 target (hnext.symm.trans hlink)) (by decide)
  | jump hname hnext _ _ ih =>
      obtain ⟨inner, outer, place, hcount, hlink, hrest⟩ := ih.exists_of_append
      rw [List.length_cons, ← hcount]
      exact .jump hname hnext hlink hrest

theorem Leads.unique {count count' : Nat} {address' : Address}
    (hleads : s.Leads count here names address) (hother : s.Leads count' here names address') :
    count = count' ∧ address = address' := by
  induction hleads generalizing count' address' with
  | arrive =>
      cases hother
      exact ⟨rfl, rfl⟩
  | stay hname _ ih =>
      cases hother with
      | stay _ hrest => exact ih hrest
      | up _ => simp at hname
      | down hother | jump hother => simp [hother.1, hother.2.1] at hname
  | up _ ih =>
      cases hother with
      | stay hname _ => simp at hname
      | up hrest => exact ih hrest
      | down hname | jump hname => exact absurd rfl hname.2.2
  | down hname hnext _ ih =>
      cases hother with
      | stay hother _ => simp [hname.1, hname.2.1] at hother
      | up _ => exact absurd rfl hname.2.2
      | down _ _ hrest => exact ih hrest
      | jump _ hjump _ _ => exact absurd hjump (hnext _)
  | jump hname hnext _ _ ihLink ihRest =>
      cases hother with
      | stay hother _ => simp [hname.1, hname.2.1] at hother
      | up _ => exact absurd rfl hname.2.2
      | down _ hdown _ => exact absurd hnext (hdown _)
      | jump _ hjump hlink hrest =>
          rw [hnext, Option.some.injEq, Entry.link.injEq] at hjump
          subst hjump
          obtain ⟨rfl, rfl⟩ := ihLink hlink
          obtain ⟨rfl, rfl⟩ := ihRest hrest
          exact ⟨rfl, rfl⟩

/-- How many addresses in use are not among the links being resolved. -/
def unresolved (s : Store) (busy : List Address) : Nat :=
  ((s.entries.map Prod.fst).toFinset \ busy.toFinset).card

theorem unresolved_nil_le : s.unresolved [] ≤ s.entries.length := by
  rw [unresolved, List.toFinset_nil, Finset.sdiff_empty]
  exact (List.toFinset_card_le _).trans_eq (List.length_map _)

theorem mem_of_get?_eq_some {link : Address} {target : Path}
    (hlink : s.get? link = some (.link target)) : link ∈ s.entries.map Prod.fst := by
  rw [get?] at hlink
  split at hlink
  · cases hlink
  · obtain ⟨before, after, hentries, _⟩ := List.lookup_eq_some_iff.mp hlink
    rw [hentries]
    simp

/-- Resolving a link leaves fewer to be resolved inside it. -/
theorem unresolved_cons_lt {link : Address} {target : Path} {busy : List Address}
    (hlink : s.get? link = some (.link target)) (hbusy : link ∉ busy) :
    s.unresolved (link :: busy) < s.unresolved busy := by
  rw [unresolved, unresolved, List.toFinset_cons, Finset.sdiff_insert]
  apply Finset.card_erase_lt_of_mem
  rw [Finset.mem_sdiff, List.mem_toFinset, List.mem_toFinset]
  exact ⟨mem_of_get?_eq_some hlink, hbusy⟩

/-- Where names lead is where their links are resolved to.  The links being resolved around them
take at least as many steps, so none of them is met again. -/
theorem Leads.realFollow_eq {count : Nat} (hleads : s.Leads count here names address) :
    ∀ (busy : List Address) (depth : Nat),
      (∀ link ∈ busy, ∀ target inner place, s.get? link = some (.link target) →
        s.Leads inner (targetBase link.dropLast target) (Path.segments target) place →
          count ≤ inner) →
      s.unresolved busy ≤ depth → s.realFollow (depth + 1) busy here names = (address, true) := by
  induction hleads with
  | arrive =>
      intro busy depth _ _
      rfl
  | stay hname _ ih =>
      intro busy depth hbusy hdepth
      rw [realFollow, realWalk, if_pos hname]
      exact ih busy depth hbusy hdepth
  | up _ ih =>
      intro busy depth hbusy hdepth
      rw [realFollow, realWalk, if_neg (by decide), if_pos rfl]
      exact ih busy depth hbusy hdepth
  | @down _ here name rest _ hname hnext _ ih =>
      intro busy depth hbusy hdepth
      rw [realFollow, realWalk, if_neg (by simp [hname.1, hname.2.1]), if_neg hname.2.2]
      cases hentry : s.get? (here ++ [name]) with
      | none =>
          simp only [hentry]
          exact ih busy depth hbusy hdepth
      | some entry =>
          cases entry with
          | link target => exact absurd hentry (hnext target)
          | file _ | directory =>
              simp only [hentry]
              exact ih busy depth hbusy hdepth
  | @jump inner outer here name rest target place _ hname hnext hlink _ ihLink ihRest =>
      intro busy depth hbusy hdepth
      have hfree : here ++ [name] ∉ busy := by
        intro hmem
        have hle := hbusy _ hmem target inner place hnext (by simpa using hlink)
        omega
      have hfewer := unresolved_cons_lt hnext hfree
      obtain ⟨depth, rfl⟩ : ∃ less, depth = less + 1 := ⟨depth - 1, by omega⟩
      have hresolved : s.realFollow (depth + 1) ((here ++ [name]) :: busy) (targetBase here target)
          (Path.segments target) = (place, true) := by
        apply ihLink _ _ _ (by omega)
        intro link hmem target' inner' place' hlink' hleads'
        rcases List.mem_cons.mp hmem with rfl | hmem
        · rw [hnext, Option.some.injEq, Entry.link.injEq] at hlink'
          subst hlink'
          rw [List.dropLast_concat] at hleads'
          exact (hlink.unique hleads').1.le
        · have hle := hbusy link hmem target' inner' place' hlink' hleads'
          omega
      rw [realFollow, realWalk, if_neg (by simp [hname.1, hname.2.1]), if_neg hname.2.2]
      simp only [hnext, List.contains_eq_mem, hfree, decide_false, Bool.false_eq_true, if_false,
        hresolved]
      refine ihRest busy (depth + 1) (fun link hmem target' inner' place' hlink' hleads' => ?_)
        hdepth
      have hle := hbusy link hmem target' inner' place' hlink' hleads'
      omega

/-- A path that can be followed leads to its real address. -/
theorem realAddress_of_locate {directory path : Path} {entry : Option Entry}
    (hlocate : s.locate true directory path = .ok (address, entry)) :
    s.realAddress directory path = address := by
  obtain ⟨_, links, _, htrail⟩ := locate_eq_ok_iff.mp hlocate
  rw [realAddress, htrail.leads.realFollow_eq [] s.entries.length (by simp) unresolved_nil_le]

end Store

end MutationTesting.Files
