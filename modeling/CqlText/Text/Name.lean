import CqlText.Text.Alphanumeric

/-!
# Parameter names

A parameter name starts with an alphabetic character or an underscore and goes on with alphanumeric
characters and underscores. The main statements are `isName_iff` and `endsName_iff`, by which names
are what the two classes of characters that a reader tells apart make up.
-/

namespace CqlText
namespace Text

/-- Whether a character can start a name. -/
def startsName (symbol : Char) : Bool :=
  isAlphabetic symbol || symbol == '_'

/-- Whether a character can stand inside a name. -/
def continuesName (symbol : Char) : Bool :=
  isAlphanumeric symbol || symbol == '_'

/-- The text is a name. -/
def IsName (text : Text) : Prop :=
  ∃ first others, text = first :: others ∧ (isAlphabetic first = true ∨ first = '_') ∧
    ∀ symbol ∈ others, isAlphanumeric symbol = true ∨ symbol = '_'

/-- The text carries no name on. -/
def EndsName (text : Text) : Prop :=
  ∀ symbol ∈ text.head?, isAlphanumeric symbol = false ∧ symbol ≠ '_'

theorem isName_iff {text : Text} :
    IsName text ↔
      ∃ first others, text = first :: others ∧ startsName first = true ∧
        ∀ symbol ∈ others, continuesName symbol = true := by
  simp [IsName, startsName, continuesName]

theorem endsName_iff {text : Text} : EndsName text ↔ Stops continuesName text := by
  simp [EndsName, Stops, continuesName]

instance (text : Text) : Decidable text.IsName :=
  match text with
  | [] => isFalse (by simp [IsName])
  | first :: others =>
      decidable_of_iff (startsName first = true ∧ others.all continuesName = true)
        (by simp [isName_iff, and_assoc])

theorem continuesName_of_startsName {symbol : Char} (starts : startsName symbol = true) :
    continuesName symbol = true := by
  simp only [startsName, Bool.or_eq_true, continuesName] at starts ⊢
  rcases starts with alphabetic | underscore
  · exact Or.inl (isAlphanumeric_of_isAlphabetic alphabetic)
  · exact Or.inr underscore

theorem continuesName_of_isDigit {symbol : Char} (digit : symbol.isDigit = true) :
    continuesName symbol = true := by
  have ascii : symbol.toNat < 128 := by
    simp only [Char.isDigit, Bool.and_eq_true, decide_eq_true_eq] at digit
    have := UInt32.le_iff_toNat_le.mp digit.2
    exact Nat.lt_of_le_of_lt this (by decide)
  simp [continuesName, isAlphanumeric_of_ascii ascii, Char.isAlphanum, digit]

end Text
end CqlText
