import CqlText.Text.Basic

/-!
# Classes of characters and their runs

A class of characters may be given by ranges of code points. The run of a class at the start of a
text is the longest leading part whose characters all belong to the class. The main statement is
`run_append`: a part of the class that is followed by no further character of the class is the run.
-/

namespace CqlText
namespace Text

/-- Inclusive ranges of code points. -/
abbrev Ranges := List (Nat × Nat)

/-- Whether a character lies in one of the ranges. -/
def Ranges.covers (ranges : Ranges) (symbol : Char) : Bool :=
  ranges.any fun range => decide (range.1 ≤ symbol.toNat) && decide (symbol.toNat ≤ range.2)

/-- The text does not start with a character of the class. -/
def Stops (inside : Char → Bool) (text : Text) : Prop :=
  ∀ symbol ∈ text.head?, inside symbol = false

@[simp] theorem stops_nil (inside : Char → Bool) : Stops inside [] := by
  simp [Stops]

@[simp] theorem stops_cons {inside : Char → Bool} {symbol : Char} {text : Text} :
    Stops inside (symbol :: text) ↔ inside symbol = false := by
  simp [Stops]

instance (inside : Char → Bool) (text : Text) : Decidable (Stops inside text) :=
  match text with
  | [] => isTrue (stops_nil inside)
  | _ :: _ => decidable_of_iff _ stops_cons.symm

theorem takeWhile_of_stops {inside : Char → Bool} {text : Text} (stops : Stops inside text) :
    text.takeWhile inside = [] := by
  cases text with
  | nil => rfl
  | cons symbol text => simp [stops_cons.mp stops]

theorem dropWhile_of_stops {inside : Char → Bool} {text : Text} (stops : Stops inside text) :
    text.dropWhile inside = text := by
  cases text with
  | nil => rfl
  | cons symbol text => simp [stops_cons.mp stops]

/-- A part of the class, followed by no character of the class, is the run. -/
theorem run_append {inside : Char → Bool} {front back : Text}
    (members : ∀ symbol ∈ front, inside symbol = true) (stops : Stops inside back) :
    (front ++ back).takeWhile inside = front ∧ (front ++ back).dropWhile inside = back := by
  rw [List.takeWhile_append_of_pos members, List.dropWhile_append_of_pos members,
    takeWhile_of_stops stops, dropWhile_of_stops stops, List.append_nil]
  exact ⟨rfl, rfl⟩

theorem mem_of_mem_takeWhile {inside : Char → Bool} {text : Text} {symbol : Char}
    (member : symbol ∈ text.takeWhile inside) : inside symbol = true :=
  List.all_eq_true.mp List.all_takeWhile symbol member

theorem stops_dropWhile (inside : Char → Bool) (text : Text) :
    Stops inside (text.dropWhile inside) := by
  intro symbol head
  have := List.head?_dropWhile_not inside text
  rw [Option.mem_def] at head
  simpa [head] using this

end Text
end CqlText
