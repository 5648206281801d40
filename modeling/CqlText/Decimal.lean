import CqlText.Text.Basic

/-!
# Decimal numerals

Numerals are read with any number of leading zeros and written with none. The main statement is
that a written word is read back.
-/

namespace CqlText
namespace Decimal

/-- The number that a run of digits denotes. -/
def value (digits : Text) : Nat :=
  Nat.ofDigitChars 10 digits 0

/-- The shortest numeral of a number. -/
def write (number : Nat) : Text :=
  Nat.toDigits 10 number

/-- The 64-bit word that a run of digits denotes, if it fits. -/
def word? (digits : Text) : Option UInt64 :=
  if value digits < UInt64.size then some (UInt64.ofNat (value digits)) else none

@[simp] theorem value_write (number : Nat) : value (write number) = number :=
  Nat.ofDigitChars_ten_toDigits

theorem write_ne_nil (number : Nat) : write number ≠ [] :=
  Nat.toDigits_ne_nil

theorem isDigit_of_mem_write {number : Nat} {symbol : Char} (member : symbol ∈ write number) :
    symbol.isDigit = true :=
  Nat.isDigit_of_mem_toDigits (by decide) (by decide) member

/-- No numeral is written with a zero in front of other digits. -/
theorem write_of_head? {number : Nat} (zero : (write number).head? = some '0') :
    write number = ['0'] := by
  induction number using Nat.strongRecOn with
  | ind number induction =>
      by_cases small : number < 10
      · have single : write number = [Nat.digitChar number] := Nat.toDigits_of_lt_base small
        simpa [single] using zero
      · have split : write number = write (number / 10) ++ [Nat.digitChar (number % 10)] :=
          Nat.toDigits_of_base_le (by decide) (by omega)
        obtain ⟨first, others, front_eq⟩ := List.exists_cons_of_ne_nil (write_ne_nil (number / 10))
        have front_zero : (write (number / 10)).head? = some '0' := by
          simpa [split, front_eq] using zero
        have front := induction (number / 10) (by omega) front_zero
        have vanishes : number / 10 = value ['0'] := by rw [← front, value_write]
        have : value ['0'] = 0 := rfl
        omega

theorem word?_eq_some_iff {digits : Text} {word : UInt64} :
    word? digits = some word ↔ value digits = word.toNat := by
  unfold word?
  split
  · next fits =>
    rw [Option.some.injEq, ← UInt64.toNat_inj, UInt64.toNat_ofNat',
      Nat.mod_eq_of_lt (by simpa [UInt64.size] using fits)]
  · next tooLarge =>
    have := word.toNat_lt_size
    simp only [reduceCtorEq, false_iff]
    omega

theorem word?_eq_none_iff {digits : Text} :
    word? digits = none ↔ UInt64.size ≤ value digits := by
  simp [word?, UInt64.size]

/-- A written word is read back. -/
@[simp] theorem word?_write (word : UInt64) : word? (write word.toNat) = some word := by
  simp [word?_eq_some_iff]

end Decimal
end CqlText
