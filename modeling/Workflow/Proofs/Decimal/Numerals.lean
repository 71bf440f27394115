import Workflow.Decimal.Layout
import Workflow.Decimal.Reader

/-!
# Numerals

The numeral of a number consists of digits, denotes the number, and has no zero in front unless
it is the numeral of zero.
-/

namespace Workflow.Decimal

theorem isDigit_of_mem_numeral {n : Nat} {c : Char} (member : c ∈ numeral n) :
    isDigit c = true := by
  have digit : c.isDigit = true := Nat.isDigit_of_mem_toDigits (by decide) (by decide) member
  simp only [Char.isDigit, Bool.and_eq_true, decide_eq_true_eq] at digit
  simp only [isDigit, Bool.and_eq_true, decide_eq_true_eq]
  exact digit

theorem numeral_ne_nil (n : Nat) : numeral n ≠ [] := Nat.toDigits_ne_nil

/-- Digits that follow others count in front of them as powers of ten. -/
theorem foldl_digits_eq (digits : List Char) (value : Nat) :
    digits.foldl (fun value c => value * 10 + digitValue c) value =
      Nat.ofDigitChars 10 digits value := by
  induction digits generalizing value with
  | nil => exact Nat.ofDigitChars_nil.symm
  | cons c digits ih =>
      rw [List.foldl_cons, ih, Nat.ofDigitChars_cons, Nat.mul_comm value]
      rfl

theorem digitsValue_numeral (n : Nat) : digitsValue (numeral n) = n :=
  (foldl_digits_eq _ 0).trans Nat.ofDigitChars_ten_toDigits

/-- A number is at most as large as with more digits behind it. -/
theorem le_foldl_digits (digits : List Char) (value : Nat) :
    value ≤ digits.foldl (fun value c => value * 10 + digitValue c) value := by
  induction digits generalizing value with
  | nil => exact Nat.le_refl value
  | cons c digits ih =>
      have grows : value ≤ value * 10 + digitValue c := by omega
      exact Nat.le_trans grows (ih _)

/-- The numeral of a number that is not zero starts with another digit than zero. -/
theorem exists_numeral_eq_cons {n : Nat} (positive : 0 < n) :
    ∃ c rest, numeral n = c :: rest ∧ c ≠ '0' := by
  induction n using Nat.strongRecOn with
  | ind n ih =>
      rcases Nat.lt_or_ge n 10 with small | large
      · refine ⟨Nat.digitChar n, [], Nat.toDigits_of_lt_base small, ?_⟩
        intro zero
        have code := Nat.toNat_digitChar_of_lt_ten small
        rw [zero] at code
        have nothing : n = 0 := by simpa using code
        omega
      · have split : numeral n = numeral (n / 10) ++ [Nat.digitChar (n % 10)] :=
          Nat.toDigits_of_base_le (by decide) large
        obtain ⟨c, rest, starts, other⟩ :=
          ih (n / 10) (by omega) (Nat.div_pos large (by decide))
        refine ⟨c, rest ++ [Nat.digitChar (n % 10)], ?_, other⟩
        rw [split, starts, List.cons_append]

end Workflow.Decimal
