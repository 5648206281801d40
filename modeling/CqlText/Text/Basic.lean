/-!
# Text and its UTF-8 width

Text is a list of characters, and positions in it are byte offsets of its UTF-8 form. The main
statement is `cut?_eq_some_iff`: a cut at a width succeeds exactly when some leading part has
that width, and it then gives back that part and the rest.
-/

namespace CqlText

/-- Text as its sequence of characters. -/
abbrev Text := List Char

namespace Text

/-- Number of bytes of the UTF-8 form. -/
def byteLength (text : Text) : Nat :=
  text.foldr (fun symbol width => symbol.utf8Size + width) 0

@[simp] theorem byteLength_nil : byteLength [] = 0 := rfl

@[simp] theorem byteLength_cons (symbol : Char) (text : Text) :
    byteLength (symbol :: text) = symbol.utf8Size + byteLength text := rfl

@[simp] theorem byteLength_append (left right : Text) :
    byteLength (left ++ right) = byteLength left + byteLength right := by
  induction left with
  | nil => simp
  | cons symbol left induction => simp [induction, Nat.add_assoc]

theorem byteLength_eq_zero_iff {text : Text} : byteLength text = 0 ↔ text = [] := by
  cases text with
  | nil => simp
  | cons symbol text => simp [Nat.ne_of_gt (Char.utf8Size_pos symbol)]

theorem byteLength_pos {text : Text} (nonempty : text ≠ []) : 0 < byteLength text :=
  Nat.pos_of_ne_zero (mt byteLength_eq_zero_iff.mp nonempty)

/-- Cut `text` after `width` bytes, `passed` being the reversed part already behind the cut. -/
def cutOnto : Text → Nat → Text → Option (Text × Text)
  | passed, 0, text => some (passed.reverse, text)
  | _, _ + 1, [] => none
  | passed, width + 1, symbol :: text =>
      if symbol.utf8Size ≤ width + 1 then
        cutOnto (symbol :: passed) (width + 1 - symbol.utf8Size) text
      else
        none

theorem cutOnto_append (passed front back : Text) :
    cutOnto passed (byteLength front) (front ++ back) = some (passed.reverse ++ front, back) := by
  induction front generalizing passed with
  | nil => simp [cutOnto]
  | cons symbol front induction =>
      obtain ⟨width, width_eq⟩ : ∃ width, byteLength (symbol :: front) = width + 1 :=
        ⟨byteLength (symbol :: front) - 1, by
          have := Char.utf8Size_pos symbol
          simp only [byteLength_cons]
          omega⟩
      have rest_eq : width + 1 - symbol.utf8Size = byteLength front := by
        simp only [byteLength_cons] at width_eq
        omega
      have fits : symbol.utf8Size ≤ width + 1 := by
        simp only [byteLength_cons] at width_eq
        omega
      rw [width_eq, List.cons_append, cutOnto, if_pos fits, rest_eq, induction]
      simp

theorem of_cutOnto {passed text front back : Text} {width : Nat}
    (cut : cutOnto passed width text = some (front, back)) :
    ∃ middle, front = passed.reverse ++ middle ∧ text = middle ++ back ∧
      byteLength middle = width := by
  induction text generalizing passed width with
  | nil =>
      cases width with
      | zero =>
          simp only [cutOnto, Option.some.injEq, Prod.mk.injEq] at cut
          exact ⟨[], by simp [cut.1], by simp [cut.2], rfl⟩
      | succ width => simp [cutOnto] at cut
  | cons symbol text induction =>
      cases width with
      | zero =>
          simp only [cutOnto, Option.some.injEq, Prod.mk.injEq] at cut
          exact ⟨[], by simp [cut.1], by simp [cut.2], rfl⟩
      | succ width =>
          rw [cutOnto] at cut
          split at cut
          · next fits =>
            obtain ⟨middle, rfl, rfl, width_eq⟩ := induction cut
            exact ⟨symbol :: middle, by simp, rfl, by simp only [byteLength_cons]; omega⟩
          · simp at cut

/-- The part of `text` that fills exactly `width` bytes, and the text after it. -/
def cut? (width : Nat) (text : Text) : Option (Text × Text) :=
  cutOnto [] width text

/-- A text is cut behind any leading part of it. -/
theorem cut?_append (front back : Text) :
    cut? (byteLength front) (front ++ back) = some (front, back) := by
  simpa [cut?] using cutOnto_append [] front back

/-- A cut succeeds exactly at the boundaries of characters. -/
theorem cut?_eq_some_iff {width : Nat} {text front back : Text} :
    cut? width text = some (front, back) ↔ text = front ++ back ∧ byteLength front = width := by
  constructor
  · intro cut
    obtain ⟨middle, rfl, rfl, width_eq⟩ := of_cutOnto cut
    exact ⟨by simp, by simpa using width_eq⟩
  · rintro ⟨rfl, rfl⟩
    exact cut?_append front back

end Text

end CqlText
