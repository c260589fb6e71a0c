import ChatMemory.Format.Decimal
import Mathlib.Data.List.Basic

/-!
Numbers in decimal digits. Main statement: the digits of a number are read as that number, also
with zeros before them.
-/

namespace ChatMemory

@[simp] theorem digitsValue_toDigits (value : Nat) : digitsValue (Nat.toDigits 10 value) = value :=
  Nat.ofDigitChars_ten_toDigits

private theorem digitsValue_append (first second : List Char) :
    digitsValue (first ++ second) = Nat.ofDigitChars 10 second (digitsValue first) :=
  Nat.ofDigitChars_append 0

@[simp] private theorem digitsValue_replicate_zero (width : Nat) :
    digitsValue (List.replicate width '0') = 0 := by
  change Nat.ofDigitChars 10 _ 0 = 0
  rw [Nat.ofDigitChars_replicate_zero, Nat.mul_zero]

@[simp] theorem digitsValue_zeros_append (width : Nat) (digits : List Char) :
    digitsValue (List.replicate width '0' ++ digits) = digitsValue digits := by
  rw [digitsValue_append, digitsValue_replicate_zero]
  rfl

theorem all_isDigit_toDigits (value : Nat) : ∀ digit ∈ Nat.toDigits 10 value, digit.isDigit :=
  fun _ member => Nat.isDigit_of_mem_toDigits (by decide) (by decide) member

theorem head?_toDigits_ne_zero {value : Nat} (positive : 0 < value) :
    (Nat.toDigits 10 value).head? ≠ some '0' := by
  induction value using Nat.strongRecOn with
  | ind value ih =>
      rw [Nat.toDigits_eq_if (by decide)]
      split
      next small =>
        have digitOf : ∀ digit : Fin 10, 0 < digit.val → digit.val.digitChar ≠ '0' := by decide
        simpa using digitOf ⟨value, small⟩ positive
      next large =>
        rw [List.head?_append_of_ne_nil _ Nat.toDigits_ne_nil]
        exact ih (value / 10) (by omega) (by omega)

end ChatMemory
