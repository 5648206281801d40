import CqlText.Schema.Identifier
import CqlText.Text.Run

/-!
# Identifiers in front of a text

A quoted identifier ends at the first quote that is not doubled, an unquoted one where a character
follows that no plain name holds. The main statements are `read?_text_append`, by which an
identifier is read back in front of a text that does not carry it on, `text_append_inj`, by which
it can be taken off the start of a text in one way only, and `text_delimits_itself`, which follows
a name from the request for an identifier to the reading.
-/

namespace CqlText
namespace Identifier

/-- The name that ends at the first quote that is not doubled, and the text behind that quote. -/
def readQuoted? : Text → Option (Text × Text)
  | '"' :: '"' :: tail => (readQuoted? tail).map fun parts => ('"' :: parts.1, parts.2)
  | '"' :: tail => some ([], tail)
  | symbol :: tail => (readQuoted? tail).map fun parts => (symbol :: parts.1, parts.2)
  | [] => none

/-- What is read as an identifier at the start of a text. -/
structure Reading where
  /-- The name, without quotes around it. -/
  name : Text
  /-- Whether it stands between quotes. -/
  quoted : Bool
  /-- The text behind it. -/
  rest : Text
deriving DecidableEq

/-- Read an identifier. There is none if a quote is never closed. -/
def read? : Text → Option Reading
  | '"' :: tail => (readQuoted? tail).map fun parts => ⟨parts.1, true, parts.2⟩
  | text => some ⟨text.takeWhile isWordSymbol, false, text.dropWhile isWordSymbol⟩

/-- The characters that carry an identifier on. -/
def carries (quoted : Bool) (symbol : Char) : Bool :=
  if quoted then symbol == '"' else isWordSymbol symbol

@[simp] theorem doubled_nil : doubled [] = [] := rfl

@[simp] theorem doubled_quote (name : Text) : doubled ('"' :: name) = '"' :: '"' :: doubled name :=
  rfl

theorem doubled_cons {symbol : Char} (other : symbol ≠ '"') (name : Text) :
    doubled (symbol :: name) = symbol :: doubled name := by
  simp [doubled, other]

theorem readQuoted?_quote {rest : Text} (ends : Text.Stops (carries true) rest) :
    readQuoted? ('"' :: rest) = some ([], rest) := by
  cases rest with
  | nil => rfl
  | cons symbol rest =>
      have other : symbol ≠ '"' := by simpa [carries] using ends
      simp [readQuoted?, other]

theorem readQuoted?_cons {symbol : Char} (other : symbol ≠ '"') (tail : Text) :
    readQuoted? (symbol :: tail) =
      (readQuoted? tail).map fun parts => (symbol :: parts.1, parts.2) := by
  simp [readQuoted?, other]

/-- A name with its quotes doubled is read up to the quote that closes it. -/
theorem readQuoted?_doubled (name : Text) {rest : Text} (ends : Text.Stops (carries true) rest) :
    readQuoted? (doubled name ++ '"' :: rest) = some (name, rest) := by
  induction name with
  | nil => exact readQuoted?_quote ends
  | cons symbol name induction =>
      by_cases same : symbol = '"'
      · subst same
        simp [readQuoted?, induction]
      · rw [doubled_cons same, List.cons_append, readQuoted?_cons same, induction, Option.map_some]

theorem isWordSymbol_of_isPlain {name : Text} (plain : isPlain name = true) :
    ∀ symbol ∈ name, isWordSymbol symbol = true := by
  cases name with
  | nil => simp
  | cons first others =>
      obtain ⟨starts, continues⟩ : first.isAlpha = true ∧
          ∀ symbol ∈ others, isWordSymbol symbol = true := by simpa [isPlain] using plain
      refine List.forall_mem_cons.mpr ⟨?_, continues⟩
      simp [isWordSymbol, Char.isAlphanum, starts]

theorem read?_of_unquoted {first : Char} (unquoted : first ≠ '"') (tail : Text) :
    read? (first :: tail) =
      some ⟨(first :: tail).takeWhile isWordSymbol, false,
        (first :: tail).dropWhile isWordSymbol⟩ := by
  simp [read?, unquoted]

/-- An identifier is read back in front of a text that does not carry it on. -/
theorem read?_text_append (identifier : Identifier) {rest : Text}
    (ends : Text.Stops (carries identifier.quoted) rest) :
    read? (identifier.text ++ rest) = some ⟨identifier.name, identifier.quoted, rest⟩ := by
  cases quoted_eq : identifier.quoted with
  | true =>
      rw [quoted_eq] at ends
      have text_eq : identifier.text ++ rest =
          '"' :: (doubled identifier.name ++ '"' :: rest) := by
        simp [text_of_quoted quoted_eq]
      rw [text_eq, read?, readQuoted?_doubled identifier.name ends, Option.map_some]
  | false =>
      rw [quoted_eq] at ends
      have members := isWordSymbol_of_isPlain (identifier.isPlain_of_unquoted quoted_eq)
      obtain ⟨taken, dropped⟩ := Text.run_append members ends
      obtain ⟨first, others, name_eq⟩ := List.exists_cons_of_ne_nil identifier.name_ne_nil
      have unquoted : first ≠ '"' := by
        rintro rfl
        simpa [isWordSymbol] using members '"' (by simp [name_eq])
      rw [text_of_unquoted quoted_eq, name_eq, List.cons_append, read?_of_unquoted unquoted,
        ← List.cons_append, ← name_eq, taken, dropped]

/-- An identifier and a text that does not carry it on are told from what they make up. -/
theorem text_append_inj {identifier other : Identifier} {rest rest' : Text}
    (ends : Text.Stops (carries identifier.quoted) rest)
    (ends' : Text.Stops (carries other.quoted) rest')
    (same : identifier.text ++ rest = other.text ++ rest') : identifier = other ∧ rest = rest' := by
  have readings := read?_text_append identifier ends
  rw [same, read?_text_append other ends', Option.some.injEq, Reading.mk.injEq] at readings
  obtain ⟨name_eq, quoted_eq, rest_eq⟩ := readings
  refine ⟨?_, rest_eq.symm⟩
  cases identifier
  cases other
  simp_all

theorem text_eq_text_iff {identifier other : Identifier} :
    identifier.text = other.text ↔
      identifier.name = other.name ∧ identifier.quoted = other.quoted := by
  constructor
  · intro same
    have alone : identifier.text ++ [] = other.text ++ [] := by rw [same]
    obtain ⟨rfl, -⟩ := text_append_inj (Text.stops_nil _) (Text.stops_nil _) alone
    exact ⟨rfl, rfl⟩
  · rintro ⟨name_eq, quoted_eq⟩
    rw [text, text, write, write, name_eq, quoted_eq]

/-- The name is a letter of ASCII with letters, digits and underscores behind it. -/
def IsWord (name : Text) : Prop :=
  ∃ first others, name = first :: others ∧ first.isAlpha = true ∧
    ∀ symbol ∈ others, symbol.isAlpha = true ∨ symbol.isDigit = true ∨ symbol = '_'

theorem isPlain_iff_isWord {name : Text} : isPlain name = true ↔ IsWord name := by
  cases name with
  | nil => simp [isPlain, IsWord]
  | cons first others =>
      have parts : isPlain (first :: others) = true ↔ first.isAlpha = true ∧
          ∀ symbol ∈ others, symbol.isAlpha = true ∨ symbol.isDigit = true ∨ symbol = '_' := by
        simp [isPlain, isWordSymbol, Char.isAlphanum, or_assoc]
      rw [parts]
      constructor
      · intro word
        exact ⟨first, others, rfl, word⟩
      · rintro ⟨_, _, name_eq, word⟩
        obtain ⟨rfl, rfl⟩ := List.cons.inj name_eq
        exact word

/-- A name that is not empty makes an identifier, which stands without quotes if none are demanded
and the name is a word. In front of a text that does not carry the identifier on, its name, its
quotes and the text are read back. Identifiers with one text are one identifier, and that text is
what is written behind a buffer. -/
theorem text_delimits_itself :
    (∀ (name : Text) (demanded : Bool), name ≠ [] →
        ∃ identifier, ofName? name demanded = some identifier ∧ identifier.name = name ∧
          (identifier.quoted = false ↔ demanded = false ∧ IsWord name) ∧
          ∀ rest, Text.Stops (carries identifier.quoted) rest →
            read? (identifier.text ++ rest) = some ⟨name, identifier.quoted, rest⟩) ∧
      (∀ identifier other : Identifier, identifier.text = other.text ↔
        identifier.name = other.name ∧ identifier.quoted = other.quoted) ∧
      ∀ (identifier : Identifier) (buffer : Text),
        identifier.write buffer = buffer ++ identifier.text := by
  refine ⟨?_, fun _ _ => text_eq_text_iff, write_eq_append_text⟩
  intro name demanded nonempty
  obtain ⟨identifier, built⟩ :=
    Option.ne_none_iff_exists'.mp (mt ofName?_eq_none_iff.mp nonempty)
  obtain ⟨-, name_eq, quoted_eq⟩ := ofName?_eq_some_iff.mp built
  refine ⟨identifier, built, name_eq, ?_, ?_⟩
  · rw [quoted_eq, ← isPlain_iff_isWord]
    simp
  · intro rest ends
    rw [read?_text_append identifier ends, name_eq]

/-- A name with quotes at its ends and a line break, in front of a text that starts like a name. -/
theorem text_delimits_itself_quotes :
    ∃ identifier, ofName? "\"a\n\"\"".toList false = some identifier ∧
      identifier.text = "\"\"\"a\n\"\"\"\"\"".toList ∧
      read? (identifier.text ++ "b\"".toList) = some ⟨"\"a\n\"\"".toList, true, "b\"".toList⟩ := by
  obtain ⟨identifier, built, name_eq, -, reads⟩ :=
    text_delimits_itself.1 "\"a\n\"\"".toList false (by decide)
  have quoted_eq : identifier.quoted = true := (ofName?_eq_some_iff.mp built).2.2
  refine ⟨identifier, built, ?_, ?_⟩
  · rw [text_of_quoted quoted_eq, name_eq]
    rfl
  · rw [reads "b\"".toList (by rw [quoted_eq]; decide), quoted_eq]

end Identifier
end CqlText
