import CqlText.Text.Run

/-!
# Text parted at a mark

The first occurrence of a mark parts a text in two. The main statements say that parting loses
nothing, that the first part is free of the mark, and that these two facts determine the parts.
-/

namespace CqlText
namespace Text

/-- The two parts of a text around the first occurrence of a mark. -/
structure Parted where
  /-- Everything before the mark; the whole text if there is none. -/
  before : Text
  /-- Whether the mark occurs. -/
  marked : Bool
  /-- Everything behind the mark; nothing if there is none. -/
  after : Text
deriving DecidableEq

/-- Part `text` at the first `mark`. -/
def partAt (mark : Char) (text : Text) : Parted :=
  match text.dropWhile (· != mark) with
  | [] => ⟨text.takeWhile (· != mark), false, []⟩
  | _ :: after => ⟨text.takeWhile (· != mark), true, after⟩

/-- A mark, where there is one. -/
def closing (mark : Char) (present : Bool) : Text :=
  if present then [mark] else []

@[simp] theorem closing_true (mark : Char) : closing mark true = [mark] := rfl

@[simp] theorem closing_false (mark : Char) : closing mark false = [] := rfl

theorem mark_notMem_before (mark : Char) (text : Text) : mark ∉ (partAt mark text).before := by
  have free : mark ∉ text.takeWhile (· != mark) := by
    intro member
    simpa using mem_of_mem_takeWhile member
  unfold partAt
  split <;> exact free

/-- Parting loses no text. -/
theorem before_append_after (mark : Char) (text : Text) :
    (partAt mark text).before ++ closing mark (partAt mark text).marked ++
      (partAt mark text).after = text := by
  have whole := List.takeWhile_append_dropWhile (p := (· != mark)) (l := text)
  have stops := stops_dropWhile (· != mark) text
  unfold partAt
  split
  · next rest_eq => simpa [rest_eq] using whole
  · next first after rest_eq =>
    have first_eq : first = mark := by simpa [rest_eq] using stops
    subst first_eq
    simpa [rest_eq] using whole

theorem after_of_not_marked {mark : Char} {text : Text}
    (unmarked : (partAt mark text).marked = false) :
    (partAt mark text).after = [] := by
  unfold partAt at unmarked ⊢
  split <;> simp_all

theorem marked_iff_mem {mark : Char} {text : Text} :
    (partAt mark text).marked = true ↔ mark ∈ text := by
  have whole := before_append_after mark text
  constructor
  · intro marked
    rw [← whole, marked]
    simp
  · intro member
    cases marked_eq : (partAt mark text).marked with
    | true => rfl
    | false =>
        rw [marked_eq, after_of_not_marked marked_eq, closing_false, List.append_nil,
          List.append_nil] at whole
        exact absurd (whole.symm ▸ member) (mark_notMem_before mark text)

theorem partAt_append {mark : Char} {before : Text} (after : Text) (free : mark ∉ before) :
    partAt mark (before ++ mark :: after) = ⟨before, true, after⟩ := by
  have unmarked : ∀ symbol ∈ before, (symbol != mark) = true := by
    intro symbol member
    simpa using fun same : symbol = mark => free (same ▸ member)
  have run := run_append unmarked (stops_cons.mpr (by simp) : Stops (· != mark) (mark :: after))
  simp [partAt, run.1, run.2]

theorem partAt_of_notMem {mark : Char} {text : Text} (free : mark ∉ text) :
    partAt mark text = ⟨text, false, []⟩ := by
  have unmarked : ∀ symbol ∈ text, (symbol != mark) = true := by
    intro symbol member
    simpa using fun same : symbol = mark => free (same ▸ member)
  have run := run_append unmarked (stops_nil _)
  rw [List.append_nil] at run
  simp [partAt, run.1, run.2]

end Text
end CqlText
