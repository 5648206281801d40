import CqlText.Template.Lexeme

/-!
# Lexemes in front of a text

Whether a lexeme is read depends on its own content and on the text behind it. The main statements
are `Lexeme.read_of_fits` and `Lexeme.fits_read`, by which the lexeme read is exactly the one that
fits, and `Template.lexemes_append`, by which lexemes that fit one after another are read back.
-/

namespace CqlText

/-- A non-empty run of digits. -/
structure Decimal.IsNumeral (digits : Text) : Prop where
  /-- There is a digit. -/
  ne_nil : digits ≠ []
  /-- There is nothing else. -/
  isDigit : ∀ symbol ∈ digits, symbol.isDigit = true

theorem Decimal.word?_of_lt {digits : Text} (fits : value digits < UInt64.size) :
    word? digits = some (UInt64.ofNat (value digits)) :=
  if_pos fits

/-- The characters that carry a placeholder on behind its lead, apart from `#{`. -/
def Lead.begins : Lead → Char → Bool
  | question => Char.isDigit
  | colon => Text.startsName

theorem Lead.begins_sharp (lead : Lead) : lead.begins '#' = false := by
  cases lead <;> decide

theorem Lead.symbol_ne_quote (lead : Lead) : lead.symbol ≠ '\'' := by
  cases lead <;> decide

theorem Text.partAt_closing {mark : Char} {before rest : Text} {closed : Bool}
    (free : mark ∉ before) (last : closed = false → rest = []) :
    partAt mark (before ++ closing mark closed ++ rest) = ⟨before, closed, rest⟩ := by
  cases closed with
  | false =>
      obtain rfl := last rfl
      simpa using partAt_of_notMem free
  | true => simpa using partAt_append rest free

namespace Lexeme

/-- A character that opens neither a literal nor a placeholder in front of a text. -/
structure Plain (symbol : Char) (rest : Text) : Prop where
  /-- It opens no literal. -/
  unquoted : symbol ≠ '\''
  /-- Nothing carries it on to a placeholder. -/
  unopened : ∀ lead : Lead, symbol = lead.symbol →
    body? rest = none ∧ Text.Stops lead.begins rest

/-- A lexeme is the first one of its source with `rest` behind it. -/
def Fits : Lexeme → Text → Prop
  | character symbol, rest => Plain symbol rest
  | literal content closed, rest => '\'' ∉ content ∧ (closed = false → rest = [])
  | overflow digits, rest =>
      Decimal.IsNumeral digits ∧ UInt64.size ≤ Decimal.value digits ∧
        ∃ after, rest = digits ++ after ∧ Text.Stops Char.isDigit after
  | positional digits, rest =>
      Decimal.IsNumeral digits ∧ Decimal.value digits < UInt64.size ∧ Text.Stops Char.isDigit rest
  | named name, rest => Text.IsName name ∧ Text.Stops Text.continuesName rest
  | expression _ source closed, rest => '}' ∉ source ∧ (closed = false → rest = [])

theorem body?_eq_none_iff {text : Text} :
    body? text = none ↔ ∀ body, text ≠ '#' :: '{' :: body := by
  rw [Option.eq_none_iff_forall_ne_some]
  simp only [ne_eq, body?_eq_some_iff]

theorem body?_eq_none_of_begins {lead : Lead} {first : Char} (tail : Text)
    (begins : lead.begins first = true) : body? (first :: tail) = none := by
  rw [body?_eq_none_iff]
  intro body whole
  rw [(List.cons.inj whole).1, lead.begins_sharp] at begins
  contradiction

theorem read_quote (tail : Text) : read '\'' tail = readLiteral tail := by
  simp [read]

theorem read_lead (lead : Lead) (tail : Text) :
    read lead.symbol tail = readPlaceholder lead tail := by
  simp [read, lead.symbol_ne_quote]

theorem readPlaceholder_of_body (lead : Lead) (body : Text) :
    readPlaceholder lead ('#' :: '{' :: body) = readExpression lead body := by
  simp [readPlaceholder, body?]

theorem readPositional_of_stops {tail : Text} (stops : Text.Stops Char.isDigit tail) :
    readPositional tail = (character '?', tail) := by
  simp [readPositional, Text.takeWhile_of_stops stops]

theorem readPositional_append {digits after : Text} (numeral : Decimal.IsNumeral digits)
    (stops : Text.Stops Char.isDigit after) :
    readPositional (digits ++ after) =
      if (Decimal.word? digits).isSome then (positional digits, after)
      else (overflow digits, digits ++ after) := by
  obtain ⟨first, others, rfl⟩ := List.exists_cons_of_ne_nil numeral.ne_nil
  obtain ⟨taken, dropped⟩ := Text.run_append numeral.isDigit stops
  simp only [readPositional, taken, dropped]
  cases Decimal.word? (first :: others) <;> rfl

theorem readNamed_of_stops {tail : Text} (stops : Text.Stops Text.startsName tail) :
    readNamed tail = (character ':', tail) := by
  cases tail with
  | nil => rfl
  | cons first others => simp [readNamed, Text.stops_cons.mp stops]

theorem readNamed_append {name after : Text} (isName : Text.IsName name)
    (stops : Text.Stops Text.continuesName after) :
    readNamed (name ++ after) = (named name, after) := by
  obtain ⟨first, others, rfl, starts, continues⟩ := Text.isName_iff.mp isName
  obtain ⟨taken, dropped⟩ := Text.run_append continues stops
  simp [readNamed, starts, taken, dropped]

theorem readPlaceholder_of_plain {lead : Lead} {rest : Text}
    (plain : Plain lead.symbol rest) :
    readPlaceholder lead rest = (character lead.symbol, rest) := by
  obtain ⟨unopened, stops⟩ := plain.unopened lead rfl
  simp only [readPlaceholder, unopened]
  cases lead with
  | question => exact readPositional_of_stops stops
  | colon => exact readNamed_of_stops stops

theorem read_of_plain {symbol : Char} {rest : Text} (plain : Plain symbol rest) :
    read symbol rest = (character symbol, rest) := by
  rw [read, if_neg plain.unquoted]
  split
  · next lead found =>
    obtain rfl := Lead.ofSymbol?_eq_some_iff.mp found
    exact readPlaceholder_of_plain plain
  · rfl

theorem read_question_append {digits after : Text} (numeral : Decimal.IsNumeral digits) :
    read '?' (digits ++ after) = readPositional (digits ++ after) := by
  obtain ⟨first, others, rfl⟩ := List.exists_cons_of_ne_nil numeral.ne_nil
  have begins : Lead.question.begins first = true := numeral.isDigit first List.mem_cons_self
  have unopened : body? (first :: (others ++ after)) = none := body?_eq_none_of_begins _ begins
  rw [show '?' = Lead.question.symbol from rfl, read_lead]
  simp only [readPlaceholder, List.cons_append, unopened]

theorem read_colon_append {name after : Text} (isName : Text.IsName name) :
    read ':' (name ++ after) = readNamed (name ++ after) := by
  obtain ⟨first, others, rfl, starts, _⟩ := Text.isName_iff.mp isName
  have begins : Lead.colon.begins first = true := starts
  have unopened : body? (first :: (others ++ after)) = none := body?_eq_none_of_begins _ begins
  rw [show ':' = Lead.colon.symbol from rfl, read_lead]
  simp only [readPlaceholder, List.cons_append, unopened]

/-- A lexeme that fits in front of a text is read there. -/
theorem read_of_fits {lexeme : Lexeme} {first : Char} {tail rest : Text}
    (fits : lexeme.Fits rest) (source_eq : lexeme.source ++ rest = first :: tail) :
    read first tail = (lexeme, rest) := by
  cases lexeme with
  | character symbol =>
      obtain ⟨rfl, rfl⟩ : symbol = first ∧ rest = tail := by simpa [source] using source_eq
      exact read_of_plain fits
  | literal content closed =>
      have whole : '\'' :: (content ++ Text.closing '\'' closed ++ rest) = first :: tail := source_eq
      obtain ⟨rfl, rfl⟩ := List.cons.inj whole
      rw [read_quote, readLiteral, Text.partAt_closing fits.1 fits.2]
  | overflow digits =>
      obtain ⟨rfl, rfl⟩ : '?' = first ∧ rest = tail := by simpa [source] using source_eq
      obtain ⟨numeral, tooLarge, after, rfl, stops⟩ := fits
      rw [read_question_append numeral, readPositional_append numeral stops,
        Decimal.word?_eq_none_iff.mpr tooLarge]
      rfl
  | positional digits =>
      have whole : '?' :: (digits ++ rest) = first :: tail := source_eq
      obtain ⟨rfl, rfl⟩ := List.cons.inj whole
      obtain ⟨numeral, small, stops⟩ := fits
      rw [read_question_append numeral, readPositional_append numeral stops,
        Decimal.word?_of_lt small]
      rfl
  | named name =>
      have whole : ':' :: (name ++ rest) = first :: tail := source_eq
      obtain ⟨rfl, rfl⟩ := List.cons.inj whole
      obtain ⟨isName, stops⟩ := fits
      rw [read_colon_append isName, readNamed_append isName stops]
  | expression lead body closed =>
      have whole : lead.symbol :: '#' :: '{' :: (body ++ Text.closing '}' closed ++ rest) =
          first :: tail := source_eq
      obtain ⟨rfl, rfl⟩ := List.cons.inj whole
      rw [read_lead, readPlaceholder_of_body, readExpression, Text.partAt_closing fits.1 fits.2]

theorem fits_readLiteral (tail : Text) : (readLiteral tail).1.Fits (readLiteral tail).2 :=
  ⟨Text.mark_notMem_before '\'' tail, Text.after_of_not_marked⟩

theorem fits_readExpression (lead : Lead) (body : Text) :
    (readExpression lead body).1.Fits (readExpression lead body).2 :=
  ⟨Text.mark_notMem_before '}' body, Text.after_of_not_marked⟩

theorem plain_lead (lead : Lead) {rest : Text} (unopened : body? rest = none)
    (stops : Text.Stops lead.begins rest) : Plain lead.symbol rest := by
  refine ⟨lead.symbol_ne_quote, ?_⟩
  intro other same
  obtain rfl : other = lead := by
    have found := congrArg Lead.ofSymbol? same
    simpa using found.symm
  exact ⟨unopened, stops⟩

theorem fits_readPositional {tail : Text} (unopened : body? tail = none) :
    (readPositional tail).1.Fits (readPositional tail).2 := by
  have whole : tail.takeWhile Char.isDigit ++ tail.dropWhile Char.isDigit = tail :=
    List.takeWhile_append_dropWhile
  have stops : Text.Stops Char.isDigit (tail.dropWhile Char.isDigit) :=
    Text.stops_dropWhile Char.isDigit tail
  by_cases run : tail.takeWhile Char.isDigit = []
  · rw [run, List.nil_append] at whole
    rw [whole] at stops
    rw [readPositional_of_stops stops]
    exact plain_lead .question unopened stops
  · have numeral : Decimal.IsNumeral (tail.takeWhile Char.isDigit) :=
      ⟨run, fun _ member => Text.mem_of_mem_takeWhile member⟩
    rw [← whole, readPositional_append numeral stops]
    cases found : Decimal.word? (tail.takeWhile Char.isDigit) with
    | some word =>
        refine ⟨numeral, ?_, stops⟩
        rw [Decimal.word?_eq_some_iff.mp found]
        exact word.toNat_lt
    | none => exact ⟨numeral, Decimal.word?_eq_none_iff.mp found, _, rfl, stops⟩

theorem fits_readNamed {tail : Text} (unopened : body? tail = none) :
    (readNamed tail).1.Fits (readNamed tail).2 := by
  by_cases stops : Text.Stops Text.startsName tail
  · rw [readNamed_of_stops stops]
    exact plain_lead .colon unopened stops
  · cases tail with
    | nil => simp at stops
    | cons first others =>
        have starts : Text.startsName first = true := by simpa using stops
        have continues : ∀ symbol ∈ others.takeWhile Text.continuesName,
            Text.continuesName symbol = true := fun _ member => Text.mem_of_mem_takeWhile member
        simp only [readNamed, starts, if_true]
        exact ⟨Text.isName_iff.mpr ⟨first, _, rfl, starts, continues⟩,
          Text.stops_dropWhile Text.continuesName others⟩

theorem fits_readPlaceholder (lead : Lead) (tail : Text) :
    (readPlaceholder lead tail).1.Fits (readPlaceholder lead tail).2 := by
  unfold readPlaceholder
  split
  · exact fits_readExpression lead _
  · next unopened =>
    cases lead with
    | question => exact fits_readPositional unopened
    | colon => exact fits_readNamed unopened

/-- The lexeme read fits in front of the text that is left. -/
theorem fits_read (first : Char) (tail : Text) : (read first tail).1.Fits (read first tail).2 := by
  unfold read
  split
  · exact fits_readLiteral tail
  · next unquoted =>
    split
    · exact fits_readPlaceholder _ tail
    · next noLead =>
      refine ⟨unquoted, ?_⟩
      rintro lead rfl
      simp at noLead

end Lexeme

namespace Template

/-- The lexemes fit one after another, the last one in front of `rest`. -/
def Fit : List Lexeme → Text → Prop
  | [], _ => True
  | lexeme :: lexemes, rest =>
      lexeme.Fits (lexemes.flatMap Lexeme.source ++ rest) ∧ Fit lexemes rest

theorem fit_append {front back : List Lexeme} {rest : Text} :
    Fit (front ++ back) rest ↔ Fit front (back.flatMap Lexeme.source ++ rest) ∧ Fit back rest := by
  induction front with
  | nil => simp [Fit]
  | cons lexeme front induction => simp [Fit, induction, and_assoc]

theorem eq_nil_of_flatMap_source {lexemes : List Lexeme}
    (empty : lexemes.flatMap Lexeme.source = []) : lexemes = [] := by
  rw [List.flatMap_eq_nil_iff] at empty
  rw [List.eq_nil_iff_forall_not_mem]
  exact fun lexeme member => lexeme.source_ne_nil (empty lexeme member)

/-- Lexemes that fit are read back, and reading goes on behind them. -/
theorem lexemes_append {front : List Lexeme} {rest : Text} (fit : Fit front rest) :
    lexemes (front.flatMap Lexeme.source ++ rest) = front ++ lexemes rest := by
  induction front with
  | nil => rfl
  | cons lexeme front induction =>
      obtain ⟨first, tail, source_eq⟩ := List.exists_cons_of_ne_nil lexeme.source_ne_nil
      have whole : lexeme.source ++ (front.flatMap Lexeme.source ++ rest) =
          first :: (tail ++ (front.flatMap Lexeme.source ++ rest)) := by
        rw [source_eq, List.cons_append]
      have read := Lexeme.read_of_fits fit.1 whole
      rw [List.flatMap_cons, List.append_assoc, whole, lexemes_cons, read, induction fit.2,
        List.cons_append]

theorem lexemes_of_fit {lexemes : List Lexeme} (fit : Fit lexemes []) :
    Template.lexemes (lexemes.flatMap Lexeme.source) = lexemes := by
  simpa using lexemes_append fit

/-- The lexemes of a template fit one after another. -/
theorem fit_lexemes (template : Text) : Fit (lexemes template) [] := by
  induction template using lexemeInduction with
  | nil => simp [Fit]
  | cons first tail induction =>
      rw [lexemes_cons]
      refine ⟨?_, induction⟩
      rw [lexemes_source, List.append_nil]
      exact Lexeme.fits_read first tail

theorem fits_of_mem_lexemes {template : Text} {lexeme : Lexeme}
    (member : lexeme ∈ lexemes template) : ∃ rest, lexeme.Fits rest := by
  obtain ⟨front, back, whole⟩ := List.append_of_mem member
  have fit := fit_lexemes template
  rw [whole, fit_append] at fit
  exact ⟨_, fit.2.1⟩

end Template
end CqlText
