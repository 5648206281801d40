import CqlText.Proofs.Slice

/-!
# The bytes of a text

The first byte of a character is told apart from its others, so the bytes of a part stand in those
of a text only where the part stands between its characters. The main statement is
`Text.occursAt_iff`, by which a search among bytes finds slices.
-/

namespace CqlText
namespace Text

/-- The bytes of the UTF-8 form. -/
def bytes (text : Text) : List UInt8 :=
  text.flatMap String.utf8EncodeChar

@[simp] theorem bytes_nil : bytes [] = [] := rfl

@[simp] theorem bytes_cons (symbol : Char) (text : Text) :
    bytes (symbol :: text) = String.utf8EncodeChar symbol ++ bytes text := rfl

@[simp] theorem bytes_append (left right : Text) :
    bytes (left ++ right) = bytes left ++ bytes right :=
  List.flatMap_append

@[simp] theorem length_bytes (text : Text) : (bytes text).length = byteLength text := by
  induction text with
  | nil => rfl
  | cons symbol text induction => simp [induction]

/-- The bytes of a part stand in those of a text from a byte offset on. -/
def OccursAt (part text : Text) (offset : Nat) : Prop :=
  ∃ front back, bytes text = front ++ bytes part ++ back ∧ front.length = offset

/-- Text whose bytes start with those of a part starts with the part. -/
theorem exists_of_bytes_eq {part text : Text} {back : List UInt8}
    (whole : bytes text = bytes part ++ back) : ∃ behind, text = part ++ behind := by
  have encoded : part.utf8Encode ++ back.toByteArray = text.utf8Encode := by
    rw [List.utf8Encode, List.utf8Encode, ← List.toByteArray_append]
    exact congrArg List.toByteArray whole.symm
  obtain ⟨behind, rfl⟩ := List.isPrefix_of_utf8Encode_append_eq_utf8Encode _ encoded
  exact ⟨behind, rfl⟩

/-- Of the bytes of a character, the first alone is a first byte. -/
theorem isUTF8FirstByte_iff {symbol : Char} {before after : List UInt8} {byte : UInt8}
    (encoded : String.utf8EncodeChar symbol = before ++ byte :: after) :
    byte.IsUTF8FirstByte ↔ before = [] := by
  have inside : before.length < (String.utf8EncodeChar symbol).length := by simp [encoded]
  have byte_eq : (String.utf8EncodeChar symbol)[before.length] = byte := by simp [encoded]
  rw [← byte_eq, UInt8.isUTF8FirstByte_getElem_utf8EncodeChar, List.length_eq_zero_iff]

/-- Of two ways to cut a list, the second cuts behind the first part or inside it. -/
theorem append_eq_append_cases {α : Type} {left right front back : List α}
    (whole : left ++ right = front ++ back) :
    (∃ later, front = left ++ later ∧ right = later ++ back) ∨
      ∃ item inner, left = front ++ item :: inner ∧ back = item :: (inner ++ right) := by
  obtain ⟨later, front_eq, right_eq⟩ | ⟨inner, left_eq, back_eq⟩ :=
    List.append_eq_append_iff.mp whole
  · exact .inl ⟨later, front_eq, right_eq⟩
  · cases inner with
    | nil => exact .inl ⟨[], by simpa using left_eq.symm, by simpa using back_eq.symm⟩
    | cons item inner => exact .inr ⟨item, inner, left_eq, back_eq⟩

/-- The bytes of a part stand only where the part stands. -/
theorem exists_of_bytes_append {part text : Text} (nonempty : part ≠ []) {front back : List UInt8}
    (whole : bytes text = front ++ (bytes part ++ back)) :
    ∃ before behind, text = before ++ part ++ behind ∧ bytes before = front := by
  obtain ⟨first, others, rfl⟩ := List.exists_cons_of_ne_nil nonempty
  obtain ⟨start, rest, encoded⟩ :=
    List.exists_cons_of_ne_nil (String.utf8EncodeChar_ne_nil (c := first))
  have starts : start.IsUTF8FirstByte :=
    (isUTF8FirstByte_iff (encoded.trans (List.nil_append _).symm)).mpr rfl
  induction text generalizing front with
  | nil => simp [encoded] at whole
  | cons symbol text induction =>
      obtain ⟨later, rfl, text_eq⟩ | ⟨byte, inner, symbol_eq, part_eq⟩ :=
        append_eq_append_cases (whole : String.utf8EncodeChar symbol ++ bytes text = _)
      · obtain ⟨before, behind, rfl, rfl⟩ := induction text_eq
        exact ⟨symbol :: before, behind, rfl, rfl⟩
      · -- A byte of this character starts the part, so it is the first one and nothing is passed.
        rw [bytes_cons, encoded, List.cons_append, List.cons_append] at part_eq
        obtain ⟨rfl, _⟩ := List.cons.inj part_eq
        obtain rfl := (isUTF8FirstByte_iff symbol_eq).mp starts
        obtain ⟨behind, text_eq⟩ := exists_of_bytes_eq whole
        exact ⟨[], behind, text_eq, rfl⟩

/-- A part occurs among the bytes of a text exactly where it is a slice. -/
theorem occursAt_iff {part text : Text} (nonempty : part ≠ []) {offset : Nat} :
    OccursAt part text offset ↔
      slice? offset (offset + byteLength part) text = some part := by
  rw [slice?_eq_some_iff]
  constructor
  · rintro ⟨front, back, whole, rfl⟩
    rw [List.append_assoc] at whole
    obtain ⟨before, behind, rfl, rfl⟩ := exists_of_bytes_append nonempty whole
    exact ⟨before, behind, rfl, by simp, by simp⟩
  · rintro ⟨before, behind, rfl, rfl, _⟩
    exact ⟨bytes before, bytes behind, by simp, by simp⟩

end Text
end CqlText
