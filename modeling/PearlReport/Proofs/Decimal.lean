import Mathlib.Algebra.Group.Nat.Defs
import Mathlib.Data.List.Induction
import PearlReport.Text.Basic

/-! Written digits and the number they are read as. -/

namespace PearlReport.Decimal

theorem digitChar_value (d : Nat) : digitValue (digitChar d) = d % 10 := by
  have h : ∀ r < 10, digitValue (Char.ofNat (48 + r)) = r := by decide
  exact h _ (Nat.mod_lt _ (by decide))

theorem digitChar_isDigit (d : Nat) : isDigit (digitChar d) = true := by
  have h : ∀ r < 10, isDigit (Char.ofNat (48 + r)) = true := by decide
  exact h _ (Nat.mod_lt _ (by decide))

theorem isDigit_ne {c d : Char} (hc : isDigit c = true) (hd : isDigit d = false) : c ≠ d := by
  intro h
  rw [h, hd] at hc
  cases hc

theorem valueOnto_cons (seen : Nat) (c : Char) (cs : List Char) :
    valueOnto seen (c :: cs) = valueOnto (seen * 10 + digitValue c) cs := by
  rw [valueOnto, List.foldl_cons, valueOnto]

theorem valueOnto_append (seen : Nat) (as bs : List Char) :
    valueOnto seen (as ++ bs) = valueOnto (valueOnto seen as) bs := by
  simp [valueOnto]

theorem value_concat (as : List Char) (c : Char) :
    value (as ++ [c]) = value as * 10 + digitValue c := by
  simp [value, valueOnto]

theorem valueOnto_ge (seen : Nat) (cs : List Char) : seen ≤ valueOnto seen cs := by
  induction cs generalizing seen with
  | nil => exact Nat.le_refl _
  | cons c cs ih =>
    have h := ih (seen * 10 + digitValue c)
    rw [valueOnto_cons]
    omega

theorem valueOnto_eq (seen : Nat) (cs : List Char) :
    valueOnto seen cs = seen * 10 ^ cs.length + value cs := by
  induction cs generalizing seen with
  | nil => simp [value, valueOnto]
  | cons c cs ih =>
    rw [value, valueOnto_cons, valueOnto_cons, ih, ih (0 * 10 + _), List.length_cons, Nat.pow_succ,
      Nat.zero_mul, Nat.zero_add, Nat.add_mul, Nat.mul_assoc, Nat.mul_comm 10, Nat.add_assoc]

theorem value_append (as bs : List Char) :
    value (as ++ bs) = value as * 10 ^ bs.length + value bs := by
  have h := valueOnto_append 0 as bs
  rwa [valueOnto_eq (valueOnto 0 as)] at h

theorem digitValue_lt {c : Char} (h : isDigit c = true) : digitValue c < 10 := by
  simp only [isDigit, Bool.and_eq_true, decide_eq_true_eq] at h
  have h9 : c.toNat ≤ '9'.toNat := h.2
  have h57 : '9'.toNat = 57 := rfl
  simp only [digitValue]
  omega

theorem value_lt {cs : List Char} (h : ∀ c ∈ cs, isDigit c = true) :
    value cs < 10 ^ cs.length := by
  induction cs using List.reverseRecOn with
  | nil => simp [value, valueOnto]
  | append_singleton cs c ih =>
    have hcs := ih fun d hd => h d (List.mem_append_left _ hd)
    have hc := digitValue_lt (h c (List.mem_append_right _ List.mem_cons_self))
    rw [value_concat, List.length_append, List.length_singleton, Nat.pow_succ]
    omega

theorem value_zeros (n : Nat) : value (List.replicate n '0') = 0 := by
  induction n with
  | zero => rfl
  | succ n ih =>
    have h0 : digitValue '0' = 0 := rfl
    rw [List.replicate_succ', value_concat, ih, h0]

theorem digitsOnto_append (fuel n : Nat) (rest : List Char) :
    digitsOnto fuel n rest = digitsOnto fuel n [] ++ rest := by
  induction fuel generalizing n rest with
  | zero => rfl
  | succ fuel ih =>
    simp only [digitsOnto]
    split
    · rfl
    · rw [ih, ih _ [digitChar n], List.append_assoc]
      rfl

theorem digitsOnto_fuel {fuel n : Nat} (h : n < fuel) :
    digitsOnto fuel n [] = digits n := by
  induction n using Nat.strongRecOn generalizing fuel with
  | ind n ih =>
    obtain ⟨f, rfl⟩ := Nat.exists_eq_succ_of_ne_zero (Nat.ne_zero_of_lt h)
    simp only [digits, digitsOnto]
    split
    · rfl
    · rename_i hn
      have hf : digitsOnto f (n / 10) [] = digits (n / 10) := ih (n / 10) (by omega) (by omega)
      have hn' : digitsOnto n (n / 10) [] = digits (n / 10) := ih (n / 10) (by omega) (by omega)
      rw [digitsOnto_append, digitsOnto_append n, hf, hn']

theorem digits_small {n : Nat} (h : n < 10) : digits n = [digitChar n] := by
  simp [digits, digitsOnto, h]

theorem digits_large {n : Nat} (h : 10 ≤ n) : digits n = digits (n / 10) ++ [digitChar n] := by
  have h' : ¬ n < 10 := by omega
  rw [digits, digitsOnto, if_neg h', digitsOnto_append, digitsOnto_fuel (by omega)]

theorem digits_value (n : Nat) : value (digits n) = n := by
  induction n using Nat.strongRecOn with
  | ind n ih =>
    by_cases h : n < 10
    · rw [digits_small h]
      simp only [value, valueOnto_cons, digitChar_value]
      simp only [valueOnto, List.foldl_nil]
      omega
    · rw [digits_large (by omega), value_concat, ih (n / 10) (by omega), digitChar_value]
      omega

theorem digits_isDigit (n : Nat) : ∀ c ∈ digits n, isDigit c = true := by
  induction n using Nat.strongRecOn with
  | ind n ih =>
    intro c hc
    by_cases h : n < 10
    · rw [digits_small h, List.mem_singleton] at hc
      exact hc ▸ digitChar_isDigit n
    · rw [digits_large (by omega), List.mem_append, List.mem_singleton] at hc
      rcases hc with hc | rfl
      · exact ih (n / 10) (by omega) c hc
      · exact digitChar_isDigit n

theorem digits_ne_nil (n : Nat) : digits n ≠ [] := by
  by_cases h : n < 10
  · simp [digits_small h]
  · simp [digits_large (Nat.le_of_not_lt h)]

theorem digits_zero_alone {n : Nat} {cs : List Char} (h : digits n = '0' :: cs) : cs = [] := by
  induction n using Nat.strongRecOn generalizing cs with
  | ind n ih =>
    by_cases hn : n < 10
    · rw [digits_small hn] at h
      exact (List.cons.inj h).2.symm
    · -- A zero in front would make the digits before the last one those of zero.
      rw [digits_large (by omega)] at h
      obtain ⟨d, ds, hd⟩ := List.exists_cons_of_ne_nil (digits_ne_nil (n / 10))
      rw [hd, List.cons_append] at h
      obtain ⟨rfl, -⟩ := List.cons.inj h
      have hv := digits_value (n / 10)
      rw [hd, ih (n / 10) (by omega) hd] at hv
      have h0 : value ['0'] = 0 := by decide
      omega

theorem padded_length (width n : Nat) : (padded width n).length = width := by
  induction width generalizing n with
  | zero => rfl
  | succ width ih => simp [padded, ih]

theorem padded_isDigit (width n : Nat) : ∀ c ∈ padded width n, isDigit c = true := by
  induction width generalizing n with
  | zero => simp [padded]
  | succ width ih =>
    intro c hc
    rw [padded, List.mem_append, List.mem_singleton] at hc
    rcases hc with hc | rfl
    · exact ih _ c hc
    · exact digitChar_isDigit n

theorem padded_value (width n : Nat) : value (padded width n) = n % 10 ^ width := by
  induction width generalizing n with
  | zero => simp [padded, value, valueOnto, Nat.mod_one]
  | succ width ih =>
    rw [padded, value_concat, ih, digitChar_value, Nat.pow_succ, Nat.mul_comm (10 ^ width),
      Nat.mod_mul]
    omega

theorem padded_value_of_lt {width n : Nat} (h : n < 10 ^ width) :
    value (padded width n) = n := by
  rw [padded_value, Nat.mod_eq_of_lt h]

end PearlReport.Decimal
