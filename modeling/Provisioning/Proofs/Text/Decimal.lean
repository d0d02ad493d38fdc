import Provisioning.Text.Decimal

/-!
# Numerals and their values

A number is written in decimal in one way, and the value of what is written is the number.
Other digits than those of a numeral have a value as well, but only if they begin with a
superfluous zero: digits without one are the numeral of their value.
-/

namespace Provisioning.Text

set_option autoImplicit false

variable {digits : List Char} {c : Char} {n : Nat}

/-! ## Numerals -/

/-- An ASCII digit stands for a number below ten. -/
theorem exists_digitChar_eq (isDigit : c.isDigit = true) : ∃ digit < 10, digit.digitChar = c := by
  have bounds : 48 ≤ c.toNat ∧ c.toNat ≤ 57 := Char.isDigit_iff_toNat.mp isDigit
  refine ⟨c.toNat - 48, by omega, Char.toNat_inj.mp ?_⟩
  rw [Nat.toNat_digitChar_of_lt_ten (by omega)]
  omega

@[simp] theorem toList_decimal (n : Nat) : (decimal n).toList = Nat.toDigits 10 n :=
  String.toList_ofList

theorem isDigit_of_mem_decimal (mem : c ∈ (decimal n).toList) : c.isDigit = true := by
  rw [toList_decimal] at mem
  exact Nat.isDigit_of_mem_toDigits (by decide) (by decide) mem

/-- A character that is no digit does not occur in a numeral. -/
theorem not_mem_decimal (noDigit : c.isDigit = false) (n : Nat) : c ∉ (decimal n).toList := by
  intro mem
  rw [isDigit_of_mem_decimal mem] at noDigit
  cases noDigit

/-- A numeral does not begin with a zero unless it is the one of zero. -/
theorem head?_decimal_ne (positive : 0 < n) : (decimal n).toList.head? ≠ some '0' := by
  rw [toList_decimal]
  induction n using Nat.strongRecOn with
  | ind n ih =>
    by_cases small : n < 10
    · rw [Nat.toDigits_of_lt_base small, List.head?_cons]
      simp [Nat.ne_of_gt positive]
    · rw [Nat.toDigits_of_base_le (by decide) (by omega), List.head?_append]
      obtain ⟨first, rest, quotient⟩ :=
        List.exists_cons_of_ne_nil (Nat.toDigits_ne_nil (n := n / 10) (b := 10))
      simpa [quotient] using ih (n / 10) (by omega) (by omega)

/-! ## Values -/

theorem decimalValue_eq (digits : List Char) :
    decimalValue digits = Nat.ofDigitChars 10 digits 0 := rfl

@[simp] theorem decimalValue_decimal (n : Nat) : decimalValue (decimal n).toList = n := by
  rw [toList_decimal, decimalValue_eq, Nat.ofDigitChars_ten_toDigits]

theorem decimal_injective : Function.Injective decimal := by
  intro m n same
  rw [← decimalValue_decimal m, same, decimalValue_decimal]

/-- Behind the numeral of a positive number, digits make the numeral of a greater one. -/
theorem toDigits_append_of_isDigit (numeric : ∀ c ∈ digits, c.isDigit = true) {start : Nat}
    (positive : 0 < start) :
    Nat.toDigits 10 start ++ digits = Nat.toDigits 10 (Nat.ofDigitChars 10 digits start) := by
  induction digits generalizing start with
  | nil => rw [List.append_nil, Nat.ofDigitChars_nil]
  | cons c rest ih =>
    obtain ⟨isDigit, numericRest⟩ := List.forall_mem_cons.mp numeric
    obtain ⟨digit, small, rfl⟩ := exists_digitChar_eq isDigit
    rw [Nat.ofDigitChars_cons_digitChar_of_lt_ten small, ← ih numericRest (by omega),
      ← Nat.toDigits_append_toDigits (by decide) positive small, Nat.toDigits_of_lt_base small,
      List.append_assoc, List.singleton_append]

/-- Digits without a superfluous zero in front are the numeral of their value. -/
theorem toList_decimal_decimalValue (numeric : ∀ c ∈ digits, c.isDigit = true)
    (canonical : digits.head? ≠ some '0' ∨ digits.length = 1) (someDigit : digits ≠ []) :
    (decimal (decimalValue digits)).toList = digits := by
  cases digits with
  | nil => exact absurd rfl someDigit
  | cons c rest =>
    obtain ⟨isDigit, numericRest⟩ := List.forall_mem_cons.mp numeric
    obtain ⟨digit, small, rfl⟩ := exists_digitChar_eq isDigit
    rw [toList_decimal, decimalValue_eq, Nat.ofDigitChars_cons_digitChar_of_lt_ten small,
      Nat.mul_zero, Nat.zero_add]
    by_cases positive : 0 < digit
    · rw [← toDigits_append_of_isDigit numericRest positive, Nat.toDigits_of_lt_base small,
        List.singleton_append]
    · have zero : digit = 0 := by omega
      subst zero
      have alone : rest = [] := by simpa using canonical
      rw [alone]
      rfl

end Provisioning.Text
