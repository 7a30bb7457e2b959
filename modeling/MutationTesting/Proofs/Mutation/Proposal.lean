import MutationTesting.Mutation.Walk
import MutationTesting.Proofs.Failure
import MutationTesting.Proofs.Mutation.Application

/-!
# Proposals name their node

What a strategy proposes carries its name, the file, and as its original the node it was asked about,
at the line of that node.  Strategies look only at kinds of node that have a line.
-/

namespace MutationTesting

/-- Whether a mutation names a node as its original and is on its line. -/
def Mutation.Names (m : Mutation) (t : Tree) : Prop :=
  m.original = t ∧ ∃ line, t.line? = some line ∧ (line : Int) = m.line

theorem Mutation.Names.fits {m : Mutation} {t : Tree} (hnames : m.Names t) : m.Fits t :=
  ⟨hnames.2, by rw [hnames.1]⟩

theorem Strategy.name_injective : Function.Injective Strategy.name := by
  intro s s' hname
  cases s <;> cases s' <;> first | rfl | exact absurd hname (by decide)

/-- Whether a mutation is a strategy's proposal for a node, which has a line. -/
def Strategy.Proposes (s : Strategy) (c : Context) (t : Tree) (m : Mutation) : Prop :=
  (∃ replacement change, m = s.propose c t replacement change) ∧ ∃ line, t.line? = some line

namespace Strategy.Proposes

variable {s : Strategy} {c : Context} {t : Tree} {m : Mutation} (hm : s.Proposes c t m)

include hm

theorem names : m.Names t := by
  obtain ⟨⟨replacement, change, rfl⟩, line, hline⟩ := hm
  refine ⟨rfl, line, hline, ?_⟩
  rw [Strategy.propose, hline, Option.getD_some]

theorem strategy_eq : m.strategy = s.name := by
  obtain ⟨⟨replacement, change, rfl⟩, -⟩ := hm
  rfl

theorem filePath_eq : m.filePath = c.filePath := by
  obtain ⟨⟨replacement, change, rfl⟩, -⟩ := hm
  rfl

end Strategy.Proposes

namespace Catalog

theorem proposes_propose {s : Strategy} {c : Context} {kind : Kind} {line : Nat}
    {fields : List Tree} {replacement : Tree} {change : String} (hlocated : kind.isLocated = true) :
    s.Proposes c (.node kind line fields) (s.propose c (.node kind line fields) replacement change) :=
  ⟨⟨replacement, change, rfl⟩, line, by rw [Tree.line?, if_pos hlocated]⟩

variable (c : Context) (t : Tree)

theorem arithmetic_proposes : ∀ m ∈ arithmetic c t, Strategy.arithmetic.Proposes c t m := by
  unfold arithmetic
  split
  · split
    · exact List.forall_mem_nil _
    · rw [List.forall_mem_cons, List.forall_mem_singleton]
      exact ⟨proposes_propose rfl, proposes_propose rfl⟩
  · exact List.forall_mem_nil _

theorem comparison_proposes : ∀ m ∈ comparison c t, Strategy.comparison.Proposes c t m := by
  unfold comparison
  split
  · intro m hm
    obtain ⟨_, _, rfl⟩ := List.mem_map.mp hm
    exact proposes_propose rfl
  · exact List.forall_mem_nil _

theorem boolean_proposes : ∀ m ∈ boolean c t, Strategy.boolean.Proposes c t m := by
  unfold boolean
  split
  case h_6 => exact List.forall_mem_nil _
  all_goals
    rw [List.forall_mem_singleton]
    exact proposes_propose rfl

theorem conditional_proposes : ∀ m ∈ conditional c t, Strategy.conditional.Proposes c t m := by
  unfold conditional
  split
  · rw [List.forall_mem_append, List.forall_mem_cons, List.forall_mem_singleton]
    refine ⟨⟨proposes_propose rfl, proposes_propose rfl⟩, ?_⟩
    split
    · exact List.forall_mem_nil _
    · rw [List.forall_mem_singleton]
      exact proposes_propose rfl
  · rw [List.forall_mem_cons, List.forall_mem_cons, List.forall_mem_singleton]
    refine ⟨proposes_propose rfl, proposes_propose rfl, ?_⟩
    split <;> exact proposes_propose rfl
  · rw [List.forall_mem_cons, List.forall_mem_cons, List.forall_mem_singleton]
    exact ⟨proposes_propose rfl, proposes_propose rfl, proposes_propose rfl⟩
  · exact List.forall_mem_nil _

theorem functionCall_proposes {found : List Mutation} (hfound : functionCall c t = .ok found) :
    ∀ m ∈ found, Strategy.functionCall.Proposes c t m := by
  unfold functionCall at hfound
  split at hfound
  · split at hfound
    · cases hfound
      exact List.forall_mem_nil _
    · split at hfound
      · cases hfound
      · dsimp only at hfound
        split at hfound
        · cases hfound
          exact List.forall_mem_nil _
        · split at hfound
          · cases hfound
            exact List.forall_mem_nil _
          · split at hfound
            · cases hfound
              rw [List.forall_mem_singleton]
              exact proposes_propose rfl
            · cases hfound
              rw [List.forall_mem_cons, List.forall_mem_singleton]
              exact ⟨proposes_propose rfl, proposes_propose rfl⟩
  · cases hfound
    exact List.forall_mem_nil _

theorem shiftedNumber_proposes {line : Nat} {rest : List Tree} {value : Literal} {n n' : Int}
    {direction : String} {m : Mutation}
    (hshifted : shiftedNumber c (.node .constant line (.literal value :: rest)) line n n'
      direction = .ok m) :
    Strategy.literal.Proposes c (.node .constant line (.literal value :: rest)) m := by
  rw [shiftedNumber, bind_eq_ok_iff] at hshifted
  obtain ⟨before, _, hshifted⟩ := hshifted
  rw [bind_eq_ok_iff] at hshifted
  obtain ⟨after, _, hshifted⟩ := hshifted
  cases hshifted
  exact proposes_propose rfl

theorem changedText_proposes {line : Nat} {rest : List Tree} {value : Literal} {s : String} :
    ∀ m ∈ changedText c (.node .constant line (.literal value :: rest)) line s,
      Strategy.literal.Proposes c (.node .constant line (.literal value :: rest)) m := by
  unfold changedText
  split
  · rw [List.forall_mem_singleton]
    exact proposes_propose rfl
  · rw [List.forall_mem_cons, List.forall_mem_singleton]
    exact ⟨proposes_propose rfl, proposes_propose rfl⟩

theorem literal_proposes {found : List Mutation} (hfound : literal c t = .ok found) :
    ∀ m ∈ found, Strategy.literal.Proposes c t m := by
  unfold literal at hfound
  split at hfound
  · cases hfound
    rw [List.forall_mem_singleton]
    exact proposes_propose rfl
  · split at hfound
    · cases hfound
      exact List.forall_mem_nil _
    · split at hfound
      next n =>
          obtain ⟨up, hup, hfound⟩ := bind_eq_ok_iff.mp hfound
          obtain ⟨down, hdown, hfound⟩ := bind_eq_ok_iff.mp hfound
          cases hfound
          rw [List.forall_mem_cons, List.forall_mem_singleton]
          exact ⟨shiftedNumber_proposes c hup, shiftedNumber_proposes c hdown⟩
      · cases hfound
        rw [List.forall_mem_cons, List.forall_mem_singleton]
        exact ⟨proposes_propose rfl, proposes_propose rfl⟩
      · split at hfound
        · cases hfound
          exact List.forall_mem_nil _
        · cases hfound
          exact changedText_proposes c
      · cases hfound
        exact List.forall_mem_nil _
  · cases hfound
    exact List.forall_mem_nil _

end Catalog

theorem Strategy.mutate_proposes {s : Strategy} {c : Context} {t : Tree} {found : List Mutation}
    (hfound : s.mutate c t = .ok found) : ∀ m ∈ found, s.Proposes c t m := by
  cases s with
  | arithmetic =>
      cases hfound
      exact Catalog.arithmetic_proposes c t
  | comparison =>
      cases hfound
      exact Catalog.comparison_proposes c t
  | boolean =>
      cases hfound
      exact Catalog.boolean_proposes c t
  | literal => exact Catalog.literal_proposes c t hfound
  | functionCall => exact Catalog.functionCall_proposes c t hfound
  | conditional =>
      cases hfound
      exact Catalog.conditional_proposes c t

end MutationTesting
