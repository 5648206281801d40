import CqlText.Decimal
import CqlText.Fields
import CqlText.Text.Run

/-!
# Lists of JSON

The part of JSON in which bindings are stored: lists of texts, 64-bit natural numbers and nulls, and
of objects with one of these as their only member. A text of such a list is a row of tokens with
blanks between them, and inside quotes most characters may be written in several ways. Of all its
texts a compact one has no blanks and no needless escapes.
-/

namespace CqlText
namespace Json

/-- A value without parts. -/
inductive Scalar where
  /-- No value. -/
  | null
  /-- A text. -/
  | text (content : Text)
  /-- A natural number. -/
  | number (word : UInt64)
deriving DecidableEq

/-- An element of a list. -/
inductive Item where
  /-- A value without parts. -/
  | scalar (value : Scalar)
  /-- An object with one member. -/
  | member (label : Text) (value : Scalar)
deriving DecidableEq

/-- A token. -/
inductive Token where
  /-- An opening square bracket. -/
  | openList
  /-- A closing square bracket. -/
  | closeList
  /-- An opening brace. -/
  | openObject
  /-- A closing brace. -/
  | closeObject
  /-- A colon. -/
  | colon
  /-- A comma. -/
  | comma
  /-- A value without parts. -/
  | scalar (value : Scalar)
deriving DecidableEq

/-- The tokens of an element. -/
def Item.tokens : Item → List Token
  | scalar value => [.scalar value]
  | member label value =>
      [.openObject, .scalar (.text label), .colon, .scalar value, .closeObject]

/-- The tokens of a list. -/
def listTokens (items : List Item) : List Token :=
  .openList :: Fields.join .comma (items.map Item.tokens) ++ [.closeList]

/-! ## Texts of a list -/

/-- Whether a character may stand between tokens. -/
def isSpace (symbol : Char) : Bool :=
  symbol == ' ' || symbol == '\t' || symbol == '\n' || symbol == '\r'

/-- The value of a hexadecimal digit. -/
def hexDigit? (symbol : Char) : Option Nat :=
  if symbol.isDigit then
    some (symbol.toNat - '0'.toNat)
  else if 'a' ≤ symbol ∧ symbol ≤ 'f' then
    some (symbol.toNat - 'a'.toNat + 10)
  else if 'A' ≤ symbol ∧ symbol ≤ 'F' then
    some (symbol.toNat - 'A'.toNat + 10)
  else
    none

/-- The 16-bit unit of four hexadecimal digits. -/
def unit? (first second third fourth : Char) : Option Nat := do
  let high := 16 * (← hexDigit? first) + (← hexDigit? second)
  let low := 16 * (← hexDigit? third) + (← hexDigit? fourth)
  return 256 * high + low

/-- The characters that a backslash and a letter stand for. -/
def letters : List (Char × Char) :=
  [('"', '"'), ('\\', '\\'), ('/', '/'), ('\x08', 'b'), ('\x0c', 'f'), ('\n', 'n'), ('\r', 'r'),
    ('\t', 't')]

/-- The character stands inside quotes as it is. -/
def IsPlain (symbol : Char) : Prop :=
  symbol ≠ '"' ∧ symbol ≠ '\\' ∧ 0x20 ≤ symbol.toNat

/-- What may be written for a character inside quotes. -/
inductive Spells : Char → Text → Prop
  /-- The character itself. -/
  | plain {symbol : Char} (plain : IsPlain symbol) : Spells symbol [symbol]
  /-- A letter behind a backslash. -/
  | letter {symbol letter : Char} (member : (symbol, letter) ∈ letters) :
      Spells symbol ['\\', letter]
  /-- The 16-bit unit of the character. -/
  | unit {symbol a b c d : Char} (unit_eq : unit? a b c d = some symbol.toNat) :
      Spells symbol ['\\', 'u', a, b, c, d]
  /-- The two 16-bit units of a character that has no single one. -/
  | pair {symbol a b c d e f g h : Char} {high low : Nat}
      (high_eq : unit? a b c d = some (0xD800 + high)) (low_eq : unit? e f g h = some (0xDC00 + low))
      (high_lt : high < 0x400) (low_lt : low < 0x400)
      (symbol_eq : symbol.toNat = 0x10000 + 0x400 * high + low) :
      Spells symbol ['\\', 'u', a, b, c, d, '\\', 'u', e, f, g, h]

/-- What may be written for a text inside quotes. -/
inductive SpellsAll : Text → Text → Prop
  /-- There is nothing to write. -/
  | nil : SpellsAll [] []
  /-- A character in front of others. -/
  | cons {symbol : Char} {content part inside : Text} (first : Spells symbol part)
      (others : SpellsAll content inside) : SpellsAll (symbol :: content) (part ++ inside)

/-- The character of a token that is one. -/
def Token.mark? : Token → Option Char
  | openList => some '['
  | closeList => some ']'
  | openObject => some '{'
  | closeObject => some '}'
  | colon => some ':'
  | comma => some ','
  | scalar _ => none

/-- What may be written for a token. -/
inductive Token.Written : Token → Text → Prop
  /-- A token that is a character. -/
  | mark {token : Token} {symbol : Char} (mark_eq : token.mark? = some symbol) :
      Written token [symbol]
  /-- The word for no value. -/
  | null : Written (.scalar .null) "null".toList
  /-- A text between quotes. -/
  | text {content inside : Text} (spelled : SpellsAll content inside) :
      Written (.scalar (.text content)) ('"' :: inside ++ ['"'])
  /-- A number in decimal digits, without leading zeros. -/
  | number (word : UInt64) : Written (.scalar (.number word)) (Decimal.write word.toNat)

/-- What may be written for tokens in a row: each as it is by itself, with blanks around it, and so
that a number does not run on. -/
inductive Row : List Token → Text → Prop
  /-- Behind the last token. -/
  | nil {blanks : Text} (blank : ∀ symbol ∈ blanks, isSpace symbol = true) : Row [] blanks
  /-- A token in front of others. -/
  | cons {token : Token} {tokens : List Token} {blanks part rest : Text}
      (blank : ∀ symbol ∈ blanks, isSpace symbol = true) (written : token.Written part)
      (ends : ∀ word, token = .scalar (.number word) → Text.Stops Char.isDigit rest)
      (others : Row tokens rest) : Row (token :: tokens) (blanks ++ part ++ rest)

/-- The text is one of a list. -/
def IsText (text : Text) (items : List Item) : Prop :=
  Row (listTokens items) text

/-! ## The compact text of a list -/

/-- A way to write characters inside quotes that escapes no more of them than it must. -/
structure Escapes (escape : Char → Text) : Prop where
  /-- A character that can stand as it is does. -/
  plain : ∀ symbol, IsPlain symbol → escape symbol = [symbol]
  /-- Any other is written in one of the ways that JSON knows. -/
  spells : ∀ symbol, Spells symbol (escape symbol)

section

variable (escape : Char → Text)

/-- A text between quotes. -/
def quote (content : Text) : Text :=
  '"' :: content.flatMap escape ++ ['"']

/-- The compact text of a value without parts. -/
def Scalar.compact : Scalar → Text
  | null => "null".toList
  | text content => quote escape content
  | number word => Decimal.write word.toNat

/-- The compact text of an element. -/
def Item.compact : Item → Text
  | scalar value => value.compact escape
  | member label value => '{' :: quote escape label ++ ':' :: value.compact escape ++ ['}']

/-- The compact text of a list. -/
def compact (items : List Item) : Text :=
  '[' :: Fields.join ',' (items.map (Item.compact escape)) ++ [']']

end

end Json
end CqlText
