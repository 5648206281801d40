import CqlText.Text.Basic

/-!
# Identifiers

A name is written as it is or between quotes, with the quotes inside it doubled. Only names made of
a letter and further letters, digits and underscores can stand without quotes.
-/

namespace CqlText
namespace Identifier

/-- Whether a character can stand in an unquoted name. -/
def isWordSymbol (symbol : Char) : Bool :=
  symbol.isAlphanum || symbol == '_'

/-- Whether a name can stand without quotes. -/
def isPlain : Text → Bool
  | [] => false
  | first :: others => first.isAlpha && others.all isWordSymbol

/-- A name with its quotes doubled. -/
def doubled (name : Text) : Text :=
  name.flatMap fun symbol => if symbol = '"' then ['"', '"'] else [symbol]

end Identifier

/-- A name of a table or column, and whether it is written between quotes. -/
structure Identifier where
  /-- The name, without quotes around it. -/
  name : Text
  /-- Whether it is written between quotes. -/
  quoted : Bool
  /-- No name is empty. -/
  name_ne_nil : name ≠ []
  /-- Only a plain name stands without quotes. -/
  isPlain_of_unquoted : quoted = false → Identifier.isPlain name = true
deriving DecidableEq

namespace Identifier

/-- The identifier with a name, quoted on demand or where the name calls for it. No identifier has
an empty name. -/
def ofName? (name : Text) (quoted : Bool) : Option Identifier :=
  if nonempty : name ≠ [] then
    some
      { name
        quoted := quoted || !isPlain name
        name_ne_nil := nonempty
        isPlain_of_unquoted := by simp }
  else
    none

/-- Write an identifier behind a text. -/
def write (identifier : Identifier) (buffer : Text) : Text :=
  if identifier.quoted then
    buffer ++ ['"'] ++ doubled identifier.name ++ ['"']
  else
    buffer ++ identifier.name

/-- The identifier as it is written. -/
def text (identifier : Identifier) : Text :=
  identifier.write []

theorem text_of_quoted {identifier : Identifier} (quoted : identifier.quoted = true) :
    identifier.text = '"' :: doubled identifier.name ++ ['"'] := by
  simp [text, write, quoted]

theorem text_of_unquoted {identifier : Identifier} (unquoted : identifier.quoted = false) :
    identifier.text = identifier.name := by
  simp [text, write, unquoted]

/-- An identifier is written behind a text as it is by itself. -/
theorem write_eq_append_text (identifier : Identifier) (buffer : Text) :
    identifier.write buffer = buffer ++ identifier.text := by
  cases quoted_eq : identifier.quoted with
  | true => simp [write, text_of_quoted quoted_eq, quoted_eq]
  | false => simp [write, text_of_unquoted quoted_eq, quoted_eq]

theorem ofName?_eq_some_iff {name : Text} {quoted : Bool} {identifier : Identifier} :
    ofName? name quoted = some identifier ↔
      name ≠ [] ∧ identifier.name = name ∧ identifier.quoted = (quoted || !isPlain name) := by
  constructor
  · intro built
    rw [ofName?] at built
    split at built
    · next nonempty =>
      obtain rfl := Option.some.inj built
      exact ⟨nonempty, rfl, rfl⟩
    · cases built
  · rintro ⟨nonempty, rfl, quoted_eq⟩
    rw [ofName?, dif_pos nonempty]
    cases identifier
    simpa using quoted_eq.symm

theorem ofName?_eq_none_iff {name : Text} {quoted : Bool} :
    ofName? name quoted = none ↔ name = [] := by
  rw [ofName?]
  split
  · next nonempty => simpa using nonempty
  · next empty => simpa using empty

end Identifier
end CqlText
