import CqlText.Text.Basic

/-!
# Slices of a text

Byte offsets inside a text and the parts between them. Leading parts of one text are told apart by
their widths.
-/

namespace CqlText
namespace Text

/-- A byte offset lies between two characters of a text or at one of its ends. -/
def IsBoundary (text : Text) (offset : Nat) : Prop :=
  ∃ front back, text = front ++ back ∧ byteLength front = offset

/-- The part of a text between two byte offsets. -/
def slice? (start stop : Nat) (text : Text) : Option Text :=
  (cut? stop text).bind fun parts => (cut? start parts.1).map Prod.snd

/-- Of two leading parts of a text, the wider one starts with the other. -/
theorem exists_append_of_width_le {front back front' back' : Text}
    (whole : front ++ back = front' ++ back') (width : byteLength front ≤ byteLength front') :
    ∃ middle, front' = front ++ middle ∧ back = middle ++ back' := by
  obtain ⟨middle, front_eq, back_eq⟩ | ⟨middle, front_eq, back_eq⟩ :=
    List.append_eq_append_iff.mp whole
  · exact ⟨middle, front_eq, back_eq⟩
  · have empty : byteLength middle = 0 := by
      rw [front_eq, byteLength_append] at width
      omega
    obtain rfl := byteLength_eq_zero_iff.mp empty
    exact ⟨[], by simpa using front_eq.symm, by simpa using back_eq.symm⟩

theorem eq_of_append_eq {front back front' back' : Text} (whole : front ++ back = front' ++ back')
    (width : byteLength front = byteLength front') : front = front' := by
  obtain ⟨middle, rfl, _⟩ := exists_append_of_width_le whole (Nat.le_of_eq width)
  have empty : byteLength middle = 0 := by
    rw [byteLength_append] at width
    omega
  obtain rfl := byteLength_eq_zero_iff.mp empty
  exact (List.append_nil front).symm

/-- A slice is there exactly if the text goes on with it behind a part that ends at its start. -/
theorem slice?_eq_some_iff {start stop : Nat} {text middle : Text} :
    slice? start stop text = some middle ↔
      ∃ front back, text = front ++ middle ++ back ∧ byteLength front = start ∧
        byteLength (front ++ middle) = stop := by
  constructor
  · intro found
    rw [slice?, Option.bind_eq_some_iff] at found
    obtain ⟨⟨whole, back⟩, outer, found⟩ := found
    obtain ⟨⟨front, middle⟩, inner, rfl⟩ := Option.map_eq_some_iff.mp found
    obtain ⟨rfl, stop_eq⟩ := cut?_eq_some_iff.mp outer
    obtain ⟨rfl, start_eq⟩ := cut?_eq_some_iff.mp inner
    exact ⟨front, back, rfl, start_eq, stop_eq⟩
  · rintro ⟨front, back, rfl, rfl, rfl⟩
    rw [slice?, cut?_append, Option.bind_some, cut?_append, Option.map_some]

theorem range_of_slice? {start stop : Nat} {text middle : Text}
    (found : slice? start stop text = some middle) :
    start ≤ stop ∧ stop ≤ byteLength text ∧ text.IsBoundary start ∧ text.IsBoundary stop := by
  obtain ⟨front, back, rfl, rfl, rfl⟩ := slice?_eq_some_iff.mp found
  refine ⟨by simp, by simp, ?_, ?_⟩
  · exact ⟨front, middle ++ back, List.append_assoc .., rfl⟩
  · exact ⟨front ++ middle, back, rfl, rfl⟩

end Text
end CqlText
