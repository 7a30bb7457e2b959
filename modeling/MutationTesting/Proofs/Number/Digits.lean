import Mathlib.Algebra.Group.Nat.Defs
import MutationTesting.Number.Decimal

/-!
# Decimal digits

The digits of a natural number can be read back, so different numbers have different texts.
-/

namespace MutationTesting.Decimal

theorem fits_iff {n : Int} : fits n = true ↔ n.natAbs < 10 ^ maxDigits := by
  rw [fits, decide_eq_true_iff, Nat.pow_eq]

theorem digitsAux_append (fuel n : Nat) (before after : List Char) :
    digitsAux fuel n (before ++ after) = digitsAux fuel n before ++ after := by
  induction fuel generalizing n before with
  | zero => rfl
  | succ fuel ih =>
      rw [digitsAux, digitsAux]
      split
      · rfl
      · rw [← List.cons_append, ih]

theorem toNat_digitChar {d : Nat} (hd : d < 10) : (digitChar d).toNat - 48 = d := by
  revert d
  decide

theorem toNat_concat (cs : List Char) (c : Char) :
    toNat (cs ++ [c]) = 10 * toNat cs + (c.toNat - 48) := by
  rw [toNat, List.foldl_append]
  rfl

theorem toNat_digitsAux {fuel n : Nat} (hfuel : n < 10 ^ fuel) :
    toNat (digitsAux fuel n []) = n := by
  induction fuel generalizing n with
  | zero =>
      obtain rfl : n = 0 := by simpa using hfuel
      rfl
  | succ fuel ih =>
      rw [digitsAux]
      split
      · next hn =>
          have hdigit := toNat_concat [] (digitChar n)
          rw [toNat_digitChar hn] at hdigit
          simpa [toNat] using hdigit
      · have hfewer : n / 10 < 10 ^ fuel := Nat.div_lt_of_lt_mul (by rwa [← Nat.pow_succ'])
        have hsplit := digitsAux_append fuel (n / 10) [] [digitChar (n % 10)]
        rw [List.nil_append] at hsplit
        rw [hsplit, toNat_concat, ih hfewer, toNat_digitChar (Nat.mod_lt n (by decide))]
        omega

theorem lt_pow_digits (n : Nat) : n < 10 ^ (Nat.log2 n / 3 + 2) := by
  calc
    n < 2 ^ (Nat.log2 n + 1) := Nat.lt_log2_self
    _ ≤ 2 ^ (3 * (Nat.log2 n / 3 + 2)) := Nat.pow_le_pow_right (by decide) (by omega)
    _ = 8 ^ (Nat.log2 n / 3 + 2) := by rw [Nat.pow_mul]
    _ ≤ 10 ^ (Nat.log2 n / 3 + 2) := Nat.pow_le_pow_left (by decide) _

theorem toNat_digits (n : Nat) : toNat (digits n) = n := toNat_digitsAux (lt_pow_digits n)

theorem ofNat_injective : Function.Injective ofNat := by
  intro n m hsame
  rw [ofNat, ofNat, String.ofList_inj] at hsame
  rw [← toNat_digits n, hsame, toNat_digits]

theorem mem_digitsAux {fuel n : Nat} {acc : List Char} {c : Char}
    (hc : c ∈ digitsAux fuel n acc) : c ∈ acc ∨ ∃ d, c = digitChar d := by
  induction fuel generalizing n acc with
  | zero => exact Or.inl hc
  | succ fuel ih =>
      rw [digitsAux] at hc
      split at hc
      · exact (List.mem_cons.mp hc).symm.imp_right fun hdigit => ⟨n, hdigit⟩
      · rcases ih hc with hacc | hdigit
        · exact (List.mem_cons.mp hacc).symm.imp_right fun hdigit => ⟨n % 10, hdigit⟩
        · exact Or.inr hdigit

theorem exists_digit_of_mem_digits {n : Nat} {c : Char} (hc : c ∈ digits n) :
    ∃ d < 10, c = digitChar d := by
  rw [digits] at hc
  rcases mem_digitsAux hc with hnone | ⟨d, rfl⟩
  · cases hnone
  · exact ⟨d % 10, Nat.mod_lt d (by decide), by rw [digitChar, digitChar, Nat.mod_mod]⟩

theorem exists_digit_of_mem_ofNat {n : Nat} {c : Char} (hc : c ∈ (ofNat n).toList) :
    ∃ d < 10, c = digitChar d := by
  rw [ofNat, String.toList_ofList] at hc
  exact exists_digit_of_mem_digits hc

theorem digitsAux_ne_nil (fuel n : Nat) : digitsAux (fuel + 1) n [] ≠ [] := by
  rw [digitsAux]
  split
  · exact List.cons_ne_nil _ _
  · have hsplit := digitsAux_append fuel (n / 10) [] [digitChar (n % 10)]
    rw [List.nil_append] at hsplit
    rw [hsplit]
    exact List.append_ne_nil_of_right_ne_nil _ (List.cons_ne_nil _ _)

theorem digits_ne_nil (n : Nat) : digits n ≠ [] := digitsAux_ne_nil _ n

theorem length_digitsAux_le {fuel n bound : Nat} (hbound : 1 ≤ bound) (hn : n < 10 ^ bound) :
    (digitsAux fuel n []).length ≤ bound := by
  induction fuel generalizing n bound with
  | zero => exact Nat.zero_le bound
  | succ fuel ih =>
      rw [digitsAux]
      split
      · exact hbound
      · next hten =>
          obtain ⟨fewer, rfl⟩ := Nat.exists_eq_add_of_le' hbound
          have hfewer : 1 ≤ fewer := by
            rcases Nat.eq_zero_or_pos fewer with rfl | hpos
            · exact absurd hn hten
            · exact hpos
          have hrest : n / 10 < 10 ^ fewer := Nat.div_lt_of_lt_mul (by rwa [← Nat.pow_succ'])
          have hsplit := digitsAux_append fuel (n / 10) [] [digitChar (n % 10)]
          rw [List.nil_append] at hsplit
          rw [hsplit, List.length_append]
          exact Nat.succ_le_succ (ih hfewer hrest)

theorem length_digits_le {n bound : Nat} (hbound : 1 ≤ bound) (hn : n < 10 ^ bound) :
    (digits n).length ≤ bound := length_digitsAux_le hbound hn

end MutationTesting.Decimal
