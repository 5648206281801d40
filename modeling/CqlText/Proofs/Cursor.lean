import CqlText.Proofs.Cuts
import CqlText.Proofs.Surface

/-!
# A cursor in a template

A cursor passes over a template once and makes its query on the way. It knows its place by a byte
offset, and what it looks at is cut out of the template at byte offsets; a cut that does not fall
between two characters stops it. The main statement is `exists_moves`: between two characters no
cut fails, and a step passes a quote, a character of a literal or a lexeme.
-/

namespace CqlText

/-- Where a cursor stands. -/
inductive Cursor.Place where
  /-- Outside string literals. -/
  | outside
  /-- In the string literal that a quote at a byte offset opens. -/
  | literal (start : Nat)
deriving DecidableEq

/-- A place in a template that is reached by passing over what is in front of it. -/
structure Cursor where
  /-- The byte offset in the template. -/
  position : Nat
  /-- Whether a literal is open. -/
  place : Cursor.Place
  /-- What the template has come to so far. -/
  query : Query
  /-- The first fault so far. -/
  fault? : Option Fault
deriving DecidableEq

namespace Cursor

/-- The start of a template. -/
def initial : Cursor :=
  ⟨0, .outside, .empty, none⟩

/-- Take text over and pass it. -/
def copy (text : Text) (cursor : Cursor) : Cursor :=
  { cursor with
    position := cursor.position + Text.byteLength text
    query := { cursor.query with text := cursor.query.text ++ text } }

/-- Write a marker for a placeholder that ends at a byte offset. -/
def mark (binding : Binding) (stop : Nat) (cursor : Cursor) : Cursor :=
  { cursor with
    position := stop
    query :=
      { text := cursor.query.text ++ Query.marker
        bindings := cursor.query.bindings ++ [binding]
        sites := cursor.query.sites ++ [Text.byteLength cursor.query.text] } }

/-- Keep a fault if it is the first one. -/
def report (fault : Fault) (cursor : Cursor) : Cursor :=
  { cursor with fault? := cursor.fault?.or (some fault) }

/-- What opens the body of an expression behind its lead. -/
def expressionOpen : Text :=
  ['#', '{']

/-- Pass an expression that a lead opens. -/
def expression? (policy : TailPolicy) (template : Text) (lead : Lead) (cursor : Cursor) :
    Option Cursor :=
  let bodyStart := cursor.position + 1 + Text.byteLength expressionOpen
  (Text.behind? bodyStart template).bind fun body =>
    match Text.offsetOf? (· == '}') body with
    | some width =>
        (Text.upTo? width body).map fun source =>
          cursor.mark (.expression lead source) (bodyStart + width + '}'.utf8Size)
    | none =>
        let reported := cursor.report (.openExpression cursor.position)
        match policy with
        | .absorb => some (reported.mark (.expression lead body) (Text.byteLength template))
        | .verbatim =>
            (Text.behind? cursor.position template).map fun tail =>
              { reported.copy tail with position := Text.byteLength template }

/-- Pass a positional placeholder with `rest` behind its lead, if there is one. -/
def positional? (rest : Text) (cursor : Cursor) : Option (Bool × Cursor) :=
  let width := Text.leadingDigits rest
  if width = 0 then
    some (false, cursor)
  else
    (Text.upTo? width rest).map fun digits =>
      match Decimal.word? digits with
      | some index => (true, cursor.mark (.positional index) (cursor.position + 1 + width))
      | none => (false, cursor.report (.indexTooLarge cursor.position digits))

/-- Pass a named placeholder with `rest` behind its lead, if there is one. -/
def named? (rest : Text) (cursor : Cursor) : Option (Bool × Cursor) :=
  match rest with
  | [] => some (false, cursor)
  | first :: others =>
      if Text.startsName first then
        let stop := Text.offsetOf? (fun symbol => !Text.continuesName symbol) others
        let width := stop.elim (Text.byteLength rest) (first.utf8Size + ·)
        (Text.upTo? width rest).map fun name =>
          (true, cursor.mark (.named name) (cursor.position + 1 + width))
      else
        some (false, cursor)

/-- Copy a lead if no placeholder was passed. -/
def orCopy (lead : Lead) (result : Bool × Cursor) : Cursor :=
  if result.1 then result.2 else result.2.copy [lead.symbol]

/-- Pass a placeholder that a lead opens, or the lead alone. -/
def placeholder? (policy : TailPolicy) (template : Text) (lead : Lead) (cursor : Cursor) :
    Option Cursor :=
  (Text.behind? (cursor.position + 1) template).bind fun rest =>
    if expressionOpen.isPrefixOf rest then
      cursor.expression? policy template lead
    else
      let attempt :=
        match lead with
        | .question => cursor.positional? rest
        | .colon => cursor.named? rest
      attempt.map (orCopy lead)

/-- Pass what starts with a character. -/
def step? (policy : TailPolicy) (template : Text) (symbol : Char) (cursor : Cursor) :
    Option Cursor :=
  match cursor.place with
  | .outside =>
      if symbol = '\'' then
        some ({ cursor with place := .literal cursor.position }.copy [symbol])
      else
        match Lead.ofSymbol? symbol with
        | some lead => cursor.placeholder? policy template lead
        | none => some (cursor.copy [symbol])
  | .literal _ =>
      if symbol = '\'' then
        some ({ cursor with place := .outside }.copy [symbol])
      else
        some (cursor.copy [symbol])

/-- Pass a lexeme as a whole. -/
def pass (policy : TailPolicy) (lexeme : Lexeme) (cursor : Cursor) : Cursor where
  position := cursor.position + Text.byteLength lexeme.source
  place := cursor.place
  query := cursor.query ++ Query.ofPieces [lexeme.piece policy]
  fault? := cursor.fault?.or (lexeme.fault? cursor.position)

variable {policy : TailPolicy} {cursor next : Cursor} {front : Text}

theorem pass_character (policy : TailPolicy) (symbol : Char) (cursor : Cursor) :
    cursor.pass policy (.character symbol) = cursor.copy [symbol] := by
  simp [pass, copy, Lexeme.piece, Lexeme.source, Lexeme.fault?, Query.append_copied]

theorem pass_overflow (policy : TailPolicy) (digits : Text) (cursor : Cursor) :
    cursor.pass policy (.overflow digits) =
      (cursor.report (.indexTooLarge cursor.position digits)).copy ['?'] := by
  simp [pass, copy, report, Lexeme.piece, Lexeme.source, Lexeme.fault?, Query.append_copied]

theorem pass_positional (policy : TailPolicy) (digits : Text) (cursor : Cursor) :
    cursor.pass policy (.positional digits) =
      cursor.mark (.positional (UInt64.ofNat (Decimal.value digits)))
        (cursor.position + 1 + Text.byteLength digits) := by
  have width : '?'.utf8Size = 1 := rfl
  simp [pass, mark, Lexeme.piece, Lexeme.source, Lexeme.fault?, Query.append_site, Nat.add_assoc,
    width]

theorem pass_named (policy : TailPolicy) (name : Text) (cursor : Cursor) :
    cursor.pass policy (.named name) =
      cursor.mark (.named name) (cursor.position + 1 + Text.byteLength name) := by
  have width : ':'.utf8Size = 1 := rfl
  simp [pass, mark, Lexeme.piece, Lexeme.source, Lexeme.fault?, Query.append_site, Nat.add_assoc,
    width]

theorem pass_expression (policy : TailPolicy) (lead : Lead) (source : Text) (cursor : Cursor) :
    cursor.pass policy (.expression lead source true) =
      cursor.mark (.expression lead source)
        (cursor.position + 1 + Text.byteLength expressionOpen + Text.byteLength source +
          '}'.utf8Size) := by
  simp [pass, mark, Lexeme.piece, Lexeme.source, Lexeme.fault?, Query.append_site, Nat.add_assoc,
    lead.utf8Size_symbol, expressionOpen]

theorem pass_absorbed (lead : Lead) (source : Text) (cursor : Cursor) :
    cursor.pass .absorb (.expression lead source false) =
      (cursor.report (.openExpression cursor.position)).mark (.expression lead source)
        (cursor.position + Text.byteLength (lead.symbol :: '#' :: '{' :: source)) := by
  simp [pass, mark, report, Lexeme.piece, Lexeme.source, Lexeme.fault?, Query.append_site]

theorem pass_verbatim (lead : Lead) (source : Text) (cursor : Cursor) :
    cursor.pass .verbatim (.expression lead source false) =
      (cursor.report (.openExpression cursor.position)).copy
        (lead.symbol :: '#' :: '{' :: source) := by
  simp [pass, copy, report, Lexeme.piece, Lexeme.source, Lexeme.fault?, Query.append_copied]

/-- Behind a lead, the body of an expression is read up to its brace or to the end. -/
theorem expression?_eq (stands : Text.byteLength front = cursor.position) (policy : TailPolicy)
    (lead : Lead) (body : Text) :
    cursor.expression? policy (front ++ lead.symbol :: '#' :: '{' :: body) lead =
      some (cursor.pass policy (Lexeme.readExpression lead body).1) := by
  have bodyFound : Text.behind? (cursor.position + 1 + Text.byteLength expressionOpen)
      (front ++ lead.symbol :: '#' :: '{' :: body) = some body :=
    Text.behind?_eq_some_iff.mpr ⟨front ++ lead.symbol :: expressionOpen,
      by simp [expressionOpen], by simp [stands, lead.utf8Size_symbol, Nat.add_assoc]⟩
  rw [expression?, bodyFound, Option.bind_some]
  -- The first brace of the body, if there is one, is where the lexeme ends as well.
  by_cases closed : '}' ∈ body
  · obtain ⟨source, after, rfl, free⟩ := List.eq_append_cons_of_mem closed
    have unclosed := Text.beq_eq_false_of_notMem free
    rw [Text.offsetOf?_append after unclosed (beq_self_eq_true '}'), Lexeme.readExpression,
      Text.partAt_append after free, pass_expression]
    simp only [Text.upTo?_append, Option.map_some]
  · have unclosed := Text.beq_eq_false_of_notMem closed
    have width : Text.byteLength (front ++ lead.symbol :: '#' :: '{' :: body) =
        cursor.position + Text.byteLength (lead.symbol :: '#' :: '{' :: body) := by
      rw [Text.byteLength_append, stands]
    rw [Text.offsetOf?_eq_none unclosed, Lexeme.readExpression, Text.partAt_of_notMem closed]
    cases policy with
    | absorb => rw [width, pass_absorbed]
    | verbatim =>
        rw [pass_verbatim, ← stands, Text.behind?_append, stands]
        simp only [Option.map_some, width]
        rfl

/-- A `?` is passed with the digits behind it, or alone. -/
theorem positional?_eq (policy : TailPolicy) (tail : Text) (cursor : Cursor) :
    (cursor.positional? tail).map (orCopy .question) =
      some (cursor.pass policy (Lexeme.readPositional tail).1) := by
  have whole : tail.takeWhile Char.isDigit ++ tail.dropWhile Char.isDigit = tail :=
    List.takeWhile_append_dropWhile
  have members : ∀ symbol ∈ tail.takeWhile Char.isDigit, symbol.isDigit = true :=
    fun _ member => Text.mem_of_mem_takeWhile member
  have stops := Text.stops_dropWhile Char.isDigit tail
  -- Counted in bytes, the digits are the run of digits, so the cut falls behind the last of them.
  rw [positional?, Text.leadingDigits_eq]
  generalize tail.takeWhile Char.isDigit = digits, tail.dropWhile Char.isDigit = after at *
  subst whole
  by_cases noDigits : digits = []
  · subst noDigits
    rw [List.nil_append, Lexeme.readPositional_of_stops stops, pass_character]
    rfl
  · have width_ne : Text.byteLength digits ≠ 0 :=
      mt Text.byteLength_eq_zero_iff.mp noDigits
    rw [Lexeme.readPositional_append ⟨noDigits, members⟩ stops]
    simp only [if_neg width_ne, Text.upTo?_append, Option.map_some]
    cases found : Decimal.word? digits with
    | some index =>
        have index_eq : UInt64.ofNat (Decimal.value digits) = index := by
          rw [Decimal.word?_eq_some_iff.mp found, UInt64.ofNat_toNat]
        simp [orCopy, pass_positional, index_eq]
    | none =>
        simp [orCopy, pass_overflow, Lead.symbol]

/-- A `:` is passed with the name behind it, or alone. -/
theorem named?_eq (policy : TailPolicy) (tail : Text) (cursor : Cursor) :
    (cursor.named? tail).map (orCopy .colon) =
      some (cursor.pass policy (Lexeme.readNamed tail).1) := by
  cases tail with
  | nil => rw [Lexeme.readNamed, pass_character]; rfl
  | cons first others =>
      cases starts : Text.startsName first with
      | false =>
          simp [named?, Lexeme.readNamed, starts, pass_character, orCopy, Lead.symbol]
      | true =>
          have whole : others.takeWhile Text.continuesName ++ others.dropWhile Text.continuesName =
              others := List.takeWhile_append_dropWhile
          have inside : ∀ symbol ∈ others.takeWhile Text.continuesName,
              (!Text.continuesName symbol) = false := by
            intro symbol member
            simpa using Text.mem_of_mem_takeWhile member
          have stops := Text.stops_dropWhile Text.continuesName others
          simp only [named?, Lexeme.readNamed, starts, if_true, pass_named]
          generalize others.takeWhile Text.continuesName = name,
            others.dropWhile Text.continuesName = after at *
          subst whole
          have width : (Text.offsetOf? (fun symbol => !Text.continuesName symbol)
              (name ++ after)).elim (Text.byteLength (first :: (name ++ after)))
                (first.utf8Size + ·) = Text.byteLength (first :: name) := by
            cases after with
            | nil => simp [Text.offsetOf?_eq_none inside]
            | cons next after =>
                have outside : (!Text.continuesName next) = true := by
                  simpa using Text.stops_cons.mp stops
                simp [Text.offsetOf?_append after inside outside]
          rw [width, ← List.cons_append, Text.upTo?_append]
          rfl

theorem isPrefixOf_expressionOpen {rest : Text} :
    expressionOpen.isPrefixOf rest = true ↔ ∃ body, rest = '#' :: '{' :: body := by
  rw [List.isPrefixOf_iff_prefix]
  constructor
  · rintro ⟨body, rfl⟩
    exact ⟨body, rfl⟩
  · rintro ⟨body, rfl⟩
    exact ⟨body, rfl⟩

theorem placeholder?_eq (stands : Text.byteLength front = cursor.position) (policy : TailPolicy)
    (lead : Lead) (tail : Text) :
    cursor.placeholder? policy (front ++ lead.symbol :: tail) lead =
      some (cursor.pass policy (Lexeme.readPlaceholder lead tail).1) := by
  have restFound : Text.behind? (cursor.position + 1) (front ++ lead.symbol :: tail) = some tail :=
    Text.behind?_eq_some_iff.mpr ⟨front ++ [lead.symbol], by simp,
      by simp [stands, lead.utf8Size_symbol]⟩
  rw [placeholder?, restFound, Option.bind_some]
  cases opened : Lexeme.body? tail with
  | some body =>
      obtain rfl := Lexeme.body?_eq_some_iff.mp opened
      rw [if_pos (isPrefixOf_expressionOpen.mpr ⟨body, rfl⟩), expression?_eq stands,
        Lexeme.readPlaceholder_of_body]
  | none =>
      have unopened : ¬ expressionOpen.isPrefixOf tail = true := by
        rw [isPrefixOf_expressionOpen]
        rintro ⟨body, rfl⟩
        exact Lexeme.body?_eq_none_iff.mp opened body rfl
      simp only [if_neg unopened, Lexeme.readPlaceholder, opened]
      cases lead with
      | question => exact positional?_eq policy tail cursor
      | colon => exact named?_eq policy tail cursor

/-- What one step makes of a cursor in front of a character and the text behind that. -/
inductive Moves (policy : TailPolicy) (cursor : Cursor) : Char → Text → Cursor → Prop where
  /-- A quote opens a literal. -/
  | opened {tail : Text} (outside : cursor.place = .outside) :
      Moves policy cursor '\'' tail
        ({ cursor with place := .literal cursor.position }.copy ['\''])
  /-- Outside literals, a lexeme is passed. -/
  | passed {symbol : Char} {tail : Text} (outside : cursor.place = .outside)
      (unquoted : symbol ≠ '\'') :
      Moves policy cursor symbol tail (cursor.pass policy (Lexeme.read symbol tail).1)
  /-- A quote closes the literal. -/
  | closed {start : Nat} {tail : Text} (inside : cursor.place = .literal start) :
      Moves policy cursor '\'' tail ({ cursor with place := .outside }.copy ['\''])
  /-- The content of a literal is copied. -/
  | copied {start : Nat} {symbol : Char} {tail : Text} (inside : cursor.place = .literal start)
      (unquoted : symbol ≠ '\'') :
      Moves policy cursor symbol tail (cursor.copy [symbol])

/-- Between two characters, no cut of a step fails. -/
theorem exists_moves (stands : Text.byteLength front = cursor.position) (policy : TailPolicy)
    (symbol : Char) (tail : Text) :
    ∃ next, cursor.step? policy (front ++ symbol :: tail) symbol = some next ∧
      Moves policy cursor symbol tail next := by
  unfold step?
  by_cases quote : symbol = '\''
  · subst quote
    cases place_eq : cursor.place with
    | outside => exact ⟨_, if_pos rfl, .opened place_eq⟩
    | literal start => exact ⟨_, if_pos rfl, .closed place_eq⟩
  · cases place_eq : cursor.place with
    | literal start => exact ⟨_, if_neg quote, .copied place_eq quote⟩
    | outside =>
        refine ⟨cursor.pass policy (Lexeme.read symbol tail).1, ?_, .passed place_eq quote⟩
        simp only [Lexeme.read, if_neg quote]
        cases found : Lead.ofSymbol? symbol with
        | none => rw [pass_character]
        | some lead =>
            obtain rfl := Lead.ofSymbol?_eq_some_iff.mp found
            exact placeholder?_eq stands policy lead tail

/-- A step passes at least one character. -/
theorem Moves.exists_consumed {symbol : Char} {tail : Text}
    (moves : Moves policy cursor symbol tail next) :
    ∃ consumed rest, symbol :: tail = consumed ++ rest ∧ consumed ≠ [] ∧
      next.position = cursor.position + Text.byteLength consumed := by
  cases moves with
  | passed => exact ⟨_, _, (Lexeme.read_source symbol tail).symm, Lexeme.source_ne_nil _, rfl⟩
  | opened => exact ⟨['\''], tail, rfl, List.cons_ne_nil _ _, rfl⟩
  | closed => exact ⟨['\''], tail, rfl, List.cons_ne_nil _ _, rfl⟩
  | copied => exact ⟨[symbol], tail, rfl, List.cons_ne_nil _ _, rfl⟩

/-- A step goes forward. -/
theorem Moves.forward {symbol : Char} {tail : Text}
    (moves : Moves policy cursor symbol tail next) : cursor.position < next.position := by
  obtain ⟨consumed, _, _, nonempty, position_eq⟩ := moves.exists_consumed
  rw [position_eq]
  exact Nat.lt_add_of_pos_right (Text.byteLength_pos nonempty)

end Cursor
end CqlText
