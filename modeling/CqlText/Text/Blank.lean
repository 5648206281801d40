import CqlText.Text.Run

/-!
# Blanks and trimming

Blanks are the characters with the Unicode property *White_Space*. The main statements say that a
trimmed text neither starts nor ends with a blank and that only blanks are trimmed away.
-/

namespace CqlText
namespace Text

/-- The blank characters. -/
def blankRanges : Ranges :=
  [(0x0009, 0x000D), (0x0020, 0x0020), (0x0085, 0x0085), (0x00A0, 0x00A0), (0x1680, 0x1680),
    (0x2000, 0x200A), (0x2028, 0x2029), (0x202F, 0x202F), (0x205F, 0x205F), (0x3000, 0x3000)]

/-- Whether a character is blank. -/
def isBlank (symbol : Char) : Bool :=
  blankRanges.covers symbol

/-- Text without the blanks at its start. -/
def trimStart (text : Text) : Text :=
  text.dropWhile isBlank

/-- Text without the blanks at its end. -/
def trimEnd (text : Text) : Text :=
  (trimStart text.reverse).reverse

/-- Text without the blanks at either end. -/
def trim (text : Text) : Text :=
  trimEnd (trimStart text)

/-- Text that has no blank at either end. -/
def IsTrimmed (text : Text) : Prop :=
  Stops isBlank text ∧ Stops isBlank text.reverse

instance (text : Text) : Decidable (IsTrimmed text) :=
  inferInstanceAs (Decidable (_ ∧ _))

theorem exists_trimStart (text : Text) :
    ∃ blanks : Text, (∀ symbol ∈ blanks, isBlank symbol = true) ∧
      text = blanks ++ trimStart text :=
  ⟨text.takeWhile isBlank, fun _ => mem_of_mem_takeWhile,
    List.takeWhile_append_dropWhile.symm⟩

theorem exists_trimEnd (text : Text) :
    ∃ blanks : Text, (∀ symbol ∈ blanks, isBlank symbol = true) ∧
      text = trimEnd text ++ blanks := by
  obtain ⟨blanks, allBlank, reverse_eq⟩ := exists_trimStart text.reverse
  refine ⟨blanks.reverse, by simpa using allBlank, ?_⟩
  have := congrArg List.reverse reverse_eq
  simpa [trimEnd] using this

/-- Trimming takes away blanks only, and only at the ends. -/
theorem exists_trim (text : Text) :
    ∃ front back : Text, (∀ symbol ∈ front ++ back, isBlank symbol = true) ∧
      text = front ++ trim text ++ back := by
  obtain ⟨front, frontBlank, front_eq⟩ := exists_trimStart text
  obtain ⟨back, backBlank, back_eq⟩ := exists_trimEnd (trimStart text)
  refine ⟨front, back, ?_, ?_⟩
  · intro symbol member
    rcases List.mem_append.mp member with member | member
    · exact frontBlank symbol member
    · exact backBlank symbol member
  · calc
      text = front ++ trimStart text := front_eq
      _ = front ++ (trim text ++ back) := congrArg _ back_eq
      _ = front ++ trim text ++ back := (List.append_assoc ..).symm

theorem stops_trimStart (text : Text) : Stops isBlank (trimStart text) :=
  stops_dropWhile isBlank text

theorem reverse_trimEnd (text : Text) : (trimEnd text).reverse = trimStart text.reverse := by
  simp [trimEnd]

/-- A trimmed text has no blank at either end. -/
theorem isTrimmed_trim (text : Text) : IsTrimmed (trim text) := by
  constructor
  · intro symbol head
    obtain ⟨blanks, _, whole⟩ := exists_trimEnd (trimStart text)
    apply stops_trimStart text symbol
    rw [whole, List.head?_append, Option.mem_def]
    rw [trim, Option.mem_def] at head
    simp [head]
  · rw [trim, reverse_trimEnd]
    exact stops_trimStart _

theorem trimStart_of_blank {blanks : Text} (blank : ∀ symbol ∈ blanks, isBlank symbol = true) :
    trimStart blanks = [] := by
  simpa [trimStart] using (run_append blank (stops_nil isBlank)).2

/-- Blanks behind a text are trimmed away. -/
theorem trim_append_of_blank {text blanks : Text}
    (blank : ∀ symbol ∈ blanks, isBlank symbol = true) : trim (text ++ blanks) = trim text := by
  have ends (front : Text) : trimEnd (front ++ blanks) = trimEnd front := by
    have blank' : ∀ symbol ∈ blanks.reverse, isBlank symbol = true := by simpa using blank
    rw [trimEnd, List.reverse_append, trimStart, List.dropWhile_append_of_pos blank']
    rfl
  by_cases allBlank : trimStart text = []
  · have gone : trimStart (text ++ blanks) = [] := by
      rw [trimStart] at allBlank
      rw [trimStart, List.dropWhile_append, allBlank]
      exact trimStart_of_blank blank
    rw [trim, gone, trim, allBlank]
  · have kept : trimStart (text ++ blanks) = trimStart text ++ blanks := by
      rw [trimStart] at allBlank
      rw [trimStart, List.dropWhile_append, if_neg (by simpa using allBlank), trimStart]
    rw [trim, kept, ends, trim]

/-- Blanks in front of a text are trimmed away. -/
theorem trim_blank_append {blanks : Text} (text : Text)
    (blank : ∀ symbol ∈ blanks, isBlank symbol = true) : trim (blanks ++ text) = trim text := by
  rw [trim, trimStart, List.dropWhile_append_of_pos blank]
  rfl

end Text
end CqlText
