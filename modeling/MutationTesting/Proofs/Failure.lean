/-!
# Computations that may fail

A chain of computations gives a result just when each of them gives one.
-/

namespace MutationTesting

variable {Failure Other Value Result : Type}

theorem bind_eq_ok_iff {first : Except Failure Value} {next : Value → Except Failure Result}
    {result : Result} :
    first >>= next = .ok result ↔ ∃ value, first = .ok value ∧ next value = .ok result := by
  cases first with
  | error failure => simp [bind, Except.bind]
  | ok value => simp [bind, Except.bind]

theorem exists_bind_eq_ok_iff {first : Except Failure Value}
    {next : Value → Except Failure Result} :
    (∃ result, first >>= next = .ok result) ↔
      ∃ value, first = .ok value ∧ ∃ result, next value = .ok result := by
  simp only [bind_eq_ok_iff]
  constructor
  · rintro ⟨result, value, hvalue, hresult⟩
    exact ⟨value, hvalue, result, hresult⟩
  · rintro ⟨value, hvalue, result, hresult⟩
    exact ⟨result, value, hvalue, hresult⟩

theorem bind_eq_error_iff {first : Except Failure Value} {next : Value → Except Failure Result}
    {failure : Failure} :
    first >>= next = .error failure ↔
      first = .error failure ∨ ∃ value, first = .ok value ∧ next value = .error failure := by
  cases first with
  | error other => simp [bind, Except.bind]
  | ok value => simp [bind, Except.bind]

variable (describe : Failure → Other)

theorem mapError_ok (value : Value) :
    (Except.ok value : Except Failure Value).mapError describe = .ok value := rfl

theorem mapError_error (failure : Failure) :
    (Except.error failure : Except Failure Value).mapError describe =
      .error (describe failure) := rfl

theorem mapError_bind (first : Except Failure Value) (next : Value → Except Failure Result) :
    (first >>= next).mapError describe =
      first.mapError describe >>= fun value => (next value).mapError describe := by
  cases first <;> rfl

theorem mapError_eq_ok_iff {describe : Failure → Other} {result : Except Failure Value}
    {value : Value} : result.mapError describe = .ok value ↔ result = .ok value := by
  cases result with
  | error failure => simp [mapError_error]
  | ok value => simp [mapError_ok]

theorem mapError_eq_error_iff {describe : Failure → Other} {result : Except Failure Value}
    {other : Other} :
    result.mapError describe = .error other ↔ ∃ failure, result = .error failure ∧
      describe failure = other := by
  cases result with
  | error failure => simp [mapError_error]
  | ok value => simp [mapError_ok]

section MapM

variable {compute : Value → Except Failure Result}

theorem mapM_cons_eq_ok_iff {first : Value} {rest : List Value} {results : List Result} :
    (first :: rest).mapM compute = .ok results ↔
      ∃ result others, compute first = .ok result ∧ rest.mapM compute = .ok others ∧
        results = result :: others := by
  rw [List.mapM_cons, bind_eq_ok_iff]
  constructor
  · rintro ⟨result, hresult, hrest⟩
    obtain ⟨others, hothers, hlist⟩ := bind_eq_ok_iff.mp hrest
    exact ⟨result, others, hresult, hothers, (Except.ok.inj hlist).symm⟩
  · rintro ⟨result, others, hresult, hothers, rfl⟩
    exact ⟨result, hresult, bind_eq_ok_iff.mpr ⟨others, hothers, rfl⟩⟩

theorem exists_of_mem_mapM {items : List Value} {results : List Result}
    (hmap : items.mapM compute = .ok results) {result : Result} (hresult : result ∈ results) :
    ∃ item ∈ items, compute item = .ok result := by
  induction items generalizing results with
  | nil =>
      cases hmap
      cases hresult
  | cons first rest ih =>
      obtain ⟨here, others, hfirst, hrest, rfl⟩ := mapM_cons_eq_ok_iff.mp hmap
      rcases List.mem_cons.mp hresult with rfl | hlater
      · exact ⟨first, List.mem_cons_self, hfirst⟩
      · obtain ⟨item, hitem, hcompute⟩ := ih hrest hlater
        exact ⟨item, List.mem_cons_of_mem first hitem, hcompute⟩

end MapM

end MutationTesting
