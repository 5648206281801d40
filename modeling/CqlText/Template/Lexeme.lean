import CqlText.Binding.Basic
import CqlText.Text.Name
import CqlText.Text.Parted

/-!
# Lexemes of a template

A template is read as a list of lexemes: string literals, placeholders and single characters. What
a template means under a policy is decided lexeme by lexeme, so the reading itself needs none. The
main statement is `Template.lexemes_source`: the sources of the lexemes make up the template.
-/

namespace CqlText

/-- A unit of a template. -/
inductive Lexeme where
  /-- A character outside literals and placeholders. -/
  | character (symbol : Char)
  /-- A string literal; only the last lexeme of a template may be open. -/
  | literal (content : Text) (closed : Bool)
  /-- The `?` before an index that no 64-bit word holds. -/
  | overflow (digits : Text)
  /-- A positional placeholder, with its index as written. -/
  | positional (digits : Text)
  /-- A named placeholder. -/
  | named (name : Text)
  /-- An expression placeholder; only the last lexeme of a template may be open. -/
  | expression (lead : Lead) (source : Text) (closed : Bool)
deriving DecidableEq

namespace Lexeme

/-- The text that a lexeme stands for. -/
def source : Lexeme → Text
  | character symbol => [symbol]
  | literal content closed => '\'' :: content ++ Text.closing '\'' closed
  | overflow _ => ['?']
  | positional digits => '?' :: digits
  | named name => ':' :: name
  | expression lead source closed =>
      lead.symbol :: '#' :: '{' :: source ++ Text.closing '}' closed

/-- The text behind `#{`, where the two characters open an expression. -/
def body? : Text → Option Text
  | '#' :: '{' :: body => some body
  | _ => none

/-- The lexeme that a quote opens, and the text after it. -/
def readLiteral (tail : Text) : Lexeme × Text :=
  let parts := Text.partAt '\'' tail
  (literal parts.before parts.marked, parts.after)

/-- The lexeme that an opened expression body completes, and the text after it. -/
def readExpression (lead : Lead) (body : Text) : Lexeme × Text :=
  let parts := Text.partAt '}' body
  (expression lead parts.before parts.marked, parts.after)

/-- The lexeme that a `?` opens, and the text after it. -/
def readPositional (tail : Text) : Lexeme × Text :=
  match tail.takeWhile Char.isDigit with
  | [] => (character '?', tail)
  | digit :: digits =>
      match Decimal.word? (digit :: digits) with
      | some _ => (positional (digit :: digits), tail.dropWhile Char.isDigit)
      | none => (overflow (digit :: digits), tail)

/-- The lexeme that a `:` opens, and the text after it. -/
def readNamed (tail : Text) : Lexeme × Text :=
  match tail with
  | [] => (character ':', [])
  | first :: others =>
      if Text.startsName first then
        (named (first :: others.takeWhile Text.continuesName),
          others.dropWhile Text.continuesName)
      else
        (character ':', tail)

/-- The lexeme that a lead opens, and the text after it. -/
def readPlaceholder (lead : Lead) (tail : Text) : Lexeme × Text :=
  match body? tail with
  | some body => readExpression lead body
  | none =>
      match lead with
      | .question => readPositional tail
      | .colon => readNamed tail

/-- The first lexeme of a non-empty text, and the text after it. -/
def read (first : Char) (tail : Text) : Lexeme × Text :=
  if first = '\'' then
    readLiteral tail
  else
    match Lead.ofSymbol? first with
    | some lead => readPlaceholder lead tail
    | none => (character first, tail)

theorem source_ne_nil (lexeme : Lexeme) : lexeme.source ≠ [] := by
  cases lexeme <;> simp [source]

theorem body?_eq_some_iff {text body : Text} :
    body? text = some body ↔ text = '#' :: '{' :: body := by
  constructor
  · intro opened
    unfold body? at opened
    split at opened
    · obtain rfl := Option.some.inj opened
      rfl
    · simp at opened
  · rintro rfl
    rfl

theorem readLiteral_source (tail : Text) :
    (readLiteral tail).1.source ++ (readLiteral tail).2 = '\'' :: tail := by
  simpa [readLiteral, source] using Text.before_append_after '\'' tail

theorem readExpression_source (lead : Lead) (body : Text) :
    (readExpression lead body).1.source ++ (readExpression lead body).2 =
      lead.symbol :: '#' :: '{' :: body := by
  simpa [readExpression, source] using Text.before_append_after '}' body

theorem readPositional_source (tail : Text) :
    (readPositional tail).1.source ++ (readPositional tail).2 = '?' :: tail := by
  have whole := List.takeWhile_append_dropWhile (p := Char.isDigit) (l := tail)
  unfold readPositional
  split
  · simp [source]
  · next digit digits taken =>
    rw [taken] at whole
    split
    · simpa [source] using whole
    · simp [source]

theorem readNamed_source (tail : Text) :
    (readNamed tail).1.source ++ (readNamed tail).2 = ':' :: tail := by
  unfold readNamed
  split
  · simp [source]
  · split
    · simp [source, List.takeWhile_append_dropWhile]
    · simp [source]

theorem readPlaceholder_source (lead : Lead) (tail : Text) :
    (readPlaceholder lead tail).1.source ++ (readPlaceholder lead tail).2 =
      lead.symbol :: tail := by
  unfold readPlaceholder
  split
  · next body opened =>
    rw [readExpression_source, body?_eq_some_iff.mp opened]
  · cases lead with
    | question => exact readPositional_source tail
    | colon => exact readNamed_source tail

/-- A lexeme and the text after it make up the text read. -/
theorem read_source (first : Char) (tail : Text) :
    (read first tail).1.source ++ (read first tail).2 = first :: tail := by
  unfold read
  split
  · next quote => rw [readLiteral_source, quote]
  · split
    · next lead found => rw [readPlaceholder_source, Lead.ofSymbol?_eq_some_iff.mp found]
    · simp [source]

theorem read_length (first : Char) (tail : Text) :
    (read first tail).2.length ≤ tail.length := by
  have lengths := congrArg List.length (read_source first tail)
  have := List.length_pos_iff.mpr (source_ne_nil (read first tail).1)
  simp only [List.length_append, List.length_cons] at lengths
  omega

end Lexeme

namespace Template

/-- The lexemes of `text`, behind the reversed list of those already read. -/
def lexemesOnto (passed : List Lexeme) : Text → List Lexeme
  | [] => passed.reverse
  | first :: tail => lexemesOnto ((Lexeme.read first tail).1 :: passed) (Lexeme.read first tail).2
termination_by text => text.length
decreasing_by exact Nat.lt_succ_of_le (Lexeme.read_length first tail)

/-- The lexemes of a template, from left to right. -/
def lexemes (template : Text) : List Lexeme :=
  lexemesOnto [] template

theorem lexemesOnto_append (passed earlier : List Lexeme) (text : Text) :
    lexemesOnto (passed ++ earlier) text = earlier.reverse ++ lexemesOnto passed text := by
  fun_induction lexemesOnto passed text with
  | case1 passed => simp [lexemesOnto]
  | case2 passed first tail induction => simpa [lexemesOnto] using induction

@[simp] theorem lexemes_nil : lexemes [] = [] := by
  simp [lexemes, lexemesOnto]

theorem lexemes_cons (first : Char) (tail : Text) :
    lexemes (first :: tail) =
      (Lexeme.read first tail).1 :: lexemes (Lexeme.read first tail).2 := by
  have front := lexemesOnto_append [] [(Lexeme.read first tail).1] (Lexeme.read first tail).2
  simpa [lexemes, lexemesOnto] using front

/-- A property of templates holds of all if it passes from the text after the first lexeme to the
whole. -/
@[elab_as_elim] theorem lexemeInduction {motive : Text → Prop} (nil : motive [])
    (cons : ∀ first tail, motive (Lexeme.read first tail).2 → motive (first :: tail))
    (template : Text) : motive template := by
  match template with
  | [] => exact nil
  | first :: tail => exact cons first tail (lexemeInduction nil cons (Lexeme.read first tail).2)
termination_by template.length
decreasing_by exact Nat.lt_succ_of_le (Lexeme.read_length first tail)

/-- Reading loses no text. -/
theorem lexemes_source (template : Text) :
    (lexemes template).flatMap Lexeme.source = template := by
  induction template using lexemeInduction with
  | nil => simp
  | cons first tail induction =>
      rw [lexemes_cons, List.flatMap_cons, induction, Lexeme.read_source]

end Template
end CqlText
