import CqlText.Proofs.Bytes

/-!
# Cuts of a text

A text is cut at byte offsets, which are found by going through its characters or its bytes. The
main statement is `leadingDigits_eq`: counting digits among the bytes of a text gives the width of
the digits among its characters.
-/

namespace CqlText
namespace Text

/-- The text behind a byte offset. There is none inside a character or beyond the end. -/
def behind? (offset : Nat) (text : Text) : Option Text :=
  (cut? offset text).map Prod.snd

/-- The text up to a byte offset. There is none inside a character or beyond the end. -/
def upTo? (offset : Nat) (text : Text) : Option Text :=
  (cut? offset text).map Prod.fst

/-- The byte offset of the first character of a class. -/
def offsetOf? (inside : Char → Bool) : Text → Option Nat
  | [] => none
  | symbol :: text =>
      if inside symbol then some 0 else (offsetOf? inside text).map (symbol.utf8Size + ·)

/-- Whether a byte is the form of a digit. -/
def isDigitByte (byte : UInt8) : Bool :=
  48 ≤ byte && byte ≤ 57

/-- Number of digits among the bytes at the start of a text. -/
def leadingDigits (text : Text) : Nat :=
  ((bytes text).takeWhile isDigitByte).length

theorem behind?_eq_some_iff {offset : Nat} {text rest : Text} :
    behind? offset text = some rest ↔ ∃ front, text = front ++ rest ∧ byteLength front = offset := by
  simp only [behind?, Option.map_eq_some_iff, Prod.exists, cut?_eq_some_iff]
  constructor
  · rintro ⟨front, _, cut, rfl⟩
    exact ⟨front, cut⟩
  · rintro ⟨front, cut⟩
    exact ⟨front, rest, cut, rfl⟩

example : behind? 1 ['é', 'a'] = none ∧ behind? 2 ['é', 'a'] = some ['a'] := by decide

theorem behind?_append (front rest : Text) :
    behind? (byteLength front) (front ++ rest) = some rest :=
  behind?_eq_some_iff.mpr ⟨front, rfl, rfl⟩

theorem upTo?_append (front rest : Text) :
    upTo? (byteLength front) (front ++ rest) = some front := by
  rw [upTo?, cut?_append, Option.map_some]

theorem offsetOf?_append {inside : Char → Bool} {front : Text} {symbol : Char} (rest : Text)
    (outside : ∀ other ∈ front, inside other = false) (member : inside symbol = true) :
    offsetOf? inside (front ++ symbol :: rest) = some (byteLength front) := by
  induction front with
  | nil => simp [offsetOf?, member]
  | cons other front induction =>
      rw [List.forall_mem_cons] at outside
      simp [offsetOf?, outside.1, induction outside.2]

theorem offsetOf?_eq_none {inside : Char → Bool} {text : Text}
    (outside : ∀ symbol ∈ text, inside symbol = false) : offsetOf? inside text = none := by
  induction text with
  | nil => rfl
  | cons symbol text induction =>
      rw [List.forall_mem_cons] at outside
      simp [offsetOf?, outside.1, induction outside.2]

theorem beq_eq_false_of_notMem {mark : Char} {text : Text} (free : mark ∉ text) :
    ∀ symbol ∈ text, (symbol == mark) = false := by
  intro symbol member
  simpa using fun same : symbol = mark => free (same ▸ member)

theorem isDigitByte_iff {byte : UInt8} :
    isDigitByte byte = true ↔ 48 ≤ byte.toNat ∧ byte.toNat ≤ 57 := by
  simp [isDigitByte, UInt8.le_iff_toNat_le]

/-- The first byte of a character tells whether it is a digit. -/
theorem isDigitByte_first {symbol : Char} {byte : UInt8} {others : List UInt8}
    (encoded : String.utf8EncodeChar symbol = byte :: others) :
    isDigitByte byte = symbol.isDigit := by
  have value_eq : symbol.val.toNat = symbol.toNat := rfl
  have digit_iff : symbol.isDigit = true ↔ 48 ≤ symbol.toNat ∧ symbol.toNat ≤ 57 :=
    Char.isDigit_iff_toNat
  rw [Bool.eq_iff_iff, isDigitByte_iff, digit_iff]
  unfold String.utf8EncodeChar at encoded
  simp only [value_eq] at encoded
  split at encoded
  · obtain ⟨rfl, _⟩ := List.cons.inj encoded
    rw [UInt8.toNat_ofNat', Nat.mod_eq_of_lt (by omega)]
  -- The first of several bytes is too large for a digit, and so is the character.
  · have large : 192 ≤ byte.toNat := by
      split at encoded
      · obtain ⟨rfl, _⟩ := List.cons.inj encoded
        rw [UInt8.toNat_ofNat']
        omega
      · split at encoded
        · obtain ⟨rfl, _⟩ := List.cons.inj encoded
          rw [UInt8.toNat_ofNat']
          omega
        · obtain ⟨rfl, _⟩ := List.cons.inj encoded
          rw [UInt8.toNat_ofNat']
          omega
    omega

theorem utf8Size_of_isDigit {symbol : Char} (digit : symbol.isDigit = true) :
    symbol.utf8Size = 1 := by
  have high : symbol.toNat ≤ 57 := (Char.isDigit_iff_toNat.mp digit).2
  have ascii : symbol.toNat ≤ 127 := Nat.le_trans high (by decide)
  exact Char.utf8Size_eq_one_iff.mpr (UInt32.le_iff_toNat_le.mpr ascii)

/-- The digits among the bytes of a text are those among its characters. -/
theorem leadingDigits_eq (text : Text) :
    leadingDigits text = byteLength (text.takeWhile Char.isDigit) := by
  induction text with
  | nil => rfl
  | cons symbol text induction =>
      obtain ⟨byte, others, encoded⟩ :=
        List.exists_cons_of_ne_nil (String.utf8EncodeChar_ne_nil (c := symbol))
      have first := isDigitByte_first encoded
      cases digit : symbol.isDigit with
      | true =>
          have size : (String.utf8EncodeChar symbol).length = 1 := by
            rw [String.length_utf8EncodeChar, utf8Size_of_isDigit digit]
          obtain rfl : others = [] := by simpa [encoded] using size
          rw [leadingDigits] at induction ⊢
          simp [encoded, first, digit, induction, utf8Size_of_isDigit digit, Nat.add_comm]
      | false => simp [leadingDigits, encoded, first, digit]

end Text
end CqlText
