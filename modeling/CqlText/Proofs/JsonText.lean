import CqlText.Json.Reader

/-!
# Texts of lists read back

The reader follows the grammar: from every text of a list it reads that list, whatever blanks and
escapes the text holds, and a compact text is one of them. The main statements are
`tokens?_of_row`, which reads tokens in a row, `read?_of_isText`, and `isText_compact`.
-/

namespace CqlText
namespace Json

/-- What is read back item by item is read back as a list. -/
theorem mapM_map_eq_some {α β : Type} {write : α → β} {read? : β → Option α}
    (reads : ∀ value, read? (write value) = some value) (values : List α) :
    (values.map write).mapM read? = some values := by
  induction values with
  | nil => rfl
  | cons value values induction => simp [reads, induction]

/-! ## Texts are read -/

/-- What may be written for a character is read as that character, and never ends a quoted text. -/
theorem exists_readSymbol {symbol : Char} {part : Text} (spelled : Spells symbol part)
    (rest : Text) :
    ∃ first tail, part ++ rest = first :: tail ∧ first ≠ '"' ∧
      readSymbol first tail = some (symbol, rest) := by
  cases spelled with
  | plain plain =>
      obtain ⟨noQuote, noBackslash, large⟩ := plain
      refine ⟨symbol, rest, rfl, noQuote, ?_⟩
      rw [readSymbol, if_neg noBackslash, if_neg (Nat.not_lt_of_le large)]
  | @letter letter member =>
      refine ⟨'\\', letter :: rest, rfl, by decide, ?_⟩
      have known : ∀ pair ∈ letters, ∀ rest, readEscape (pair.2 :: rest) = some (pair.1, rest) := by
        simp [letters, readEscape]
      rw [readSymbol, if_pos rfl, known _ member]
  | @unit a b c d unit_eq =>
      refine ⟨'\\', 'u' :: a :: b :: c :: d :: rest, rfl, by decide, ?_⟩
      have scalar : symbol.toNat < 0xD800 ∨ 0xE000 ≤ symbol.toNat := by
        rcases symbol.valid with low | high
        · exact Or.inl low
        · exact Or.inr high.1
      simp [readSymbol, readEscape, readUnit, unit_eq, scalar]
  | @pair a b c d e f g h high low high_eq low_eq high_lt low_lt symbol_eq =>
      refine ⟨'\\', 'u' :: a :: b :: c :: d :: '\\' :: 'u' :: e :: f :: g :: h :: rest, rfl,
        by decide, ?_⟩
      have outside : ¬(0xD800 + high < 0xD800 ∨ 0xE000 ≤ 0xD800 + high) := by omega
      have first : 0xD800 + high < 0xDC00 := by omega
      have second : 0xDC00 ≤ 0xDC00 + low ∧ 0xDC00 + low < 0xE000 := by omega
      have read : readUnit (a :: b :: c :: d :: '\\' :: 'u' :: e :: f :: g :: h :: rest) =
          some (Char.ofNat (0x10000 + 0x400 * high + low), rest) := by
        simp only [readUnit, high_eq, low_eq, Option.bind_eq_bind, Option.bind_some, if_neg outside,
          if_pos first, if_pos second, Nat.add_sub_cancel_left, Option.pure_def]
      simp [readSymbol, readEscape, read, ← symbol_eq]

theorem unquoteOnto_cons {first : Char} (noQuote : first ≠ '"') (passed tail : Text) :
    unquoteOnto passed (first :: tail) =
      (readSymbol first tail).bind fun parts => unquoteOnto (parts.1 :: passed) parts.2 := by
  rw [unquoteOnto, if_neg noQuote]
  split
  · next symbol rest read => rw [read, Option.bind_some]
  · next read => rw [read, Option.bind_none]

theorem unquoteOnto_spelled (passed rest : Text) {content inside : Text}
    (spelled : SpellsAll content inside) :
    unquoteOnto passed (inside ++ '"' :: rest) = some (passed.reverse ++ content, rest) := by
  induction spelled generalizing passed with
  | nil => simp [unquoteOnto]
  | @cons symbol content part inside first others induction =>
      obtain ⟨begins, tail, split, noQuote, read⟩ :=
        exists_readSymbol first (inside ++ '"' :: rest)
      rw [List.append_assoc, split, unquoteOnto_cons noQuote, read, Option.bind_some, induction]
      simp

theorem tokens?_blanks_append {blanks : Text} (blank : ∀ symbol ∈ blanks, isSpace symbol = true)
    (rest : Text) : tokens? (blanks ++ rest) = tokens? rest := by
  induction blanks with
  | nil => rfl
  | cons symbol blanks induction =>
      rw [List.forall_mem_cons] at blank
      rw [List.cons_append, tokens?_space _ blank.1, induction blank.2]

theorem isSpace_of_isDigit {symbol : Char} (digit : symbol.isDigit = true) :
    isSpace symbol = false := by
  rw [Bool.eq_false_iff]
  intro space
  simp only [isSpace, Bool.or_eq_true, beq_iff_eq] at space
  rcases space with ((rfl | rfl) | rfl) | rfl
  all_goals exact absurd digit (by decide)

theorem readToken_digit {first : Char} (tail : Text) (digit : first.isDigit = true)
    (nonzero : first ≠ '0') :
    readToken first tail =
      (Decimal.word? (first :: tail.takeWhile Char.isDigit)).map fun word =>
        (.scalar (.number word), tail.dropWhile Char.isDigit) := by
  unfold readToken
  split
  case h_10 => rw [if_pos digit]
  case h_9 => exact absurd rfl nonzero
  all_goals exact absurd digit (by decide)

/-- A number that no digit follows is read as a whole. -/
theorem exists_readToken_number (word : UInt64) {rest : Text}
    (ends : Text.Stops Char.isDigit rest) :
    ∃ first tail, Decimal.write word.toNat ++ rest = first :: tail ∧ isSpace first = false ∧
      readToken first tail = some (.scalar (.number word), rest) := by
  obtain ⟨first, others, write_eq⟩ :=
    List.exists_cons_of_ne_nil (Decimal.write_ne_nil word.toNat)
  have digits : ∀ symbol ∈ first :: others, symbol.isDigit = true :=
    fun symbol member => Decimal.isDigit_of_mem_write (write_eq ▸ member)
  obtain ⟨first_digit, others_digits⟩ := List.forall_mem_cons.mp digits
  have word_eq : Decimal.word? (first :: others) = some word := by
    rw [← write_eq, Decimal.word?_write]
  refine ⟨first, others ++ rest, by rw [write_eq, List.cons_append],
    isSpace_of_isDigit first_digit, ?_⟩
  -- A zero is a token of its own: it is read alone, and so it must be written alone.
  by_cases zero : first = '0'
  · subst zero
    have alone : '0' :: others = ['0'] :=
      write_eq ▸ Decimal.write_of_head? (by rw [write_eq, List.head?_cons])
    obtain rfl := (List.cons.inj alone).2
    obtain rfl : 0 = word := Option.some.inj word_eq
    rfl
  · obtain ⟨taken, dropped⟩ := Text.run_append others_digits ends
    rw [readToken_digit _ first_digit zero, taken, dropped, word_eq, Option.map_some]

/-- What may be written for a token is read as that token. -/
theorem exists_readToken {token : Token} {part rest : Text} (written : token.Written part)
    (ends : ∀ word, token = .scalar (.number word) → Text.Stops Char.isDigit rest) :
    ∃ first tail, part ++ rest = first :: tail ∧ isSpace first = false ∧
      readToken first tail = some (token, rest) := by
  cases written with
  | mark mark_eq =>
      refine ⟨_, rest, rfl, ?_⟩
      cases token <;> cases mark_eq <;> exact ⟨rfl, rfl⟩
  | null => exact ⟨'n', "ull".toList ++ rest, rfl, rfl, rfl⟩
  | @text content inside spelled =>
      refine ⟨'"', inside ++ '"' :: rest, by simp, rfl, ?_⟩
      rw [readToken, unquote?, unquoteOnto_spelled [] rest spelled]
      rfl
  | number word => exact exists_readToken_number word (ends word rfl)

/-- Tokens in a row are read one after another. -/
theorem tokens?_of_row {tokens : List Token} {text : Text} (row : Row tokens text) :
    tokens? text = some tokens := by
  induction row with
  | @nil blanks blank => simpa using tokens?_blanks_append blank []
  | @cons token tokens blanks part rest blank written ends _ induction =>
      obtain ⟨first, tail, split, noSpace, read⟩ := exists_readToken written ends
      rw [List.append_assoc, tokens?_blanks_append blank, split, tokens?_cons tail noSpace, read,
        Option.bind_some, induction, Option.map_some]

namespace Item

theorem tokens_ne_nil (item : Item) : item.tokens ≠ [] := by
  cases item <;> simp [tokens]

theorem comma_notMem_tokens (item : Item) : .comma ∉ item.tokens := by
  cases item <;> simp [tokens]

theorem ofTokens?_tokens (item : Item) : ofTokens? item.tokens = some item := by
  cases item <;> rfl

end Item

/-- A list is read from its tokens. -/
theorem elements?_listTokens (items : List Item) : elements? (listTokens items) = some items := by
  rw [elements?, listTokens, enclosed?_eq_some_iff.mpr rfl]
  cases items with
  | nil => rfl
  | cons item items =>
      have rows_ne_nil : (item :: items).map Item.tokens ≠ [] := by simp
      have free : ∀ tokens ∈ (item :: items).map Item.tokens, .comma ∉ tokens := by
        intro tokens member
        obtain ⟨other, -, rfl⟩ := List.mem_map.mp member
        exact other.comma_notMem_tokens
      obtain ⟨token, others, join_eq⟩ := List.exists_cons_of_ne_nil
        (Fields.join_ne_nil .comma (items.map Item.tokens) item.tokens_ne_nil)
      have split_eq : Fields.split .comma (token :: others) = (item :: items).map Item.tokens := by
        rw [← join_eq]
        exact Fields.split_join rows_ne_nil free
      -- Something is enclosed, so the tokens between the brackets are divided at the commas.
      rw [List.map_cons, join_eq]
      change (Fields.split .comma (token :: others)).mapM Item.ofTokens? = _
      rw [split_eq, mapM_map_eq_some Item.ofTokens?_tokens]

/-- From a text of a list that list is read. -/
theorem read?_of_isText {text : Text} {items : List Item} (isText : IsText text items) :
    read? text = some items := by
  rw [read?, tokens?_of_row isText, Option.bind_some, elements?_listTokens]

/-! ## Compact texts are texts -/

theorem hexDigit?_digitChar {digit : Nat} (small : digit < 16) :
    hexDigit? (Nat.digitChar digit) = some digit := by
  have all : ∀ digit < 16, hexDigit? (Nat.digitChar digit) = some digit := by decide
  exact all digit small

theorem unit?_control {symbol : Char} (control : symbol.toNat < 0x20) :
    unit? '0' '0' (Nat.digitChar (symbol.toNat / 16)) (Nat.digitChar (symbol.toNat % 16)) =
      some symbol.toNat := by
  have zero : hexDigit? '0' = some 0 := rfl
  have high : hexDigit? (Nat.digitChar (symbol.toNat / 16)) = some (symbol.toNat / 16) :=
    hexDigit?_digitChar (by omega)
  have low : hexDigit? (Nat.digitChar (symbol.toNat % 16)) = some (symbol.toNat % 16) :=
    hexDigit?_digitChar (by omega)
  simp only [unit?, zero, high, low, Option.bind_eq_bind, Option.bind_some, Option.pure_def,
    Option.some.injEq]
  omega

/-- Quotes, backslashes and control characters are escaped, each in a way that JSON knows, and all
other characters are left as they are. -/
theorem escapes_escape : Escapes escape where
  plain symbol plain := by
    obtain ⟨noQuote, noBackslash, large⟩ := plain
    unfold escape
    split
    case h_8 => rw [if_neg (Nat.not_lt_of_le large)]
    all_goals simp_all
  spells symbol := by
    unfold escape
    split
    case h_8 noQuote noBackslash _ _ _ _ _ =>
      split
      · next control => exact .unit (unit?_control control)
      · next large => exact .plain ⟨noQuote, noBackslash, Nat.le_of_not_lt large⟩
    all_goals exact .letter (by decide)

namespace Row

variable {tokens : List Token} {rest : Text}

theorem token {token : Token} {part : Text} (written : token.Written part)
    (ends : ∀ word, token = .scalar (.number word) → Text.Stops Char.isDigit rest)
    (others : Row tokens rest) : Row (token :: tokens) (part ++ rest) := by
  have noBlank : ∀ symbol ∈ ([] : Text), isSpace symbol = true := by simp
  exact Row.cons noBlank written ends others

theorem mark {token : Token} {symbol : Char} (mark_eq : token.mark? = some symbol)
    (others : Row tokens rest) : Row (token :: tokens) (symbol :: rest) := by
  refine Row.token (.mark mark_eq) ?_ others
  rintro word rfl
  cases mark_eq

variable {escape : Char → Text} (escapes : Escapes escape)

include escapes

theorem quote (content : Text) (others : Row tokens rest) :
    Row (.scalar (.text content) :: tokens) (Json.quote escape content ++ rest) := by
  have spelled : SpellsAll content (content.flatMap escape) := by
    induction content with
    | nil => exact .nil
    | cons symbol content induction => exact .cons (escapes.spells symbol) induction
  exact Row.token (.text spelled) (by simp) others

theorem scalar (value : Scalar) (ends : Text.Stops Char.isDigit rest) (others : Row tokens rest) :
    Row (.scalar value :: tokens) (value.compact escape ++ rest) := by
  cases value with
  | null => exact Row.token .null (by simp) others
  | text content => exact Row.quote escapes content others
  | number word => exact Row.token (.number word) (fun _ _ => ends) others

/-- The tokens of an element are written one after another in its compact text. -/
theorem item (item : Item) (ends : Text.Stops Char.isDigit rest) (others : Row tokens rest) :
    Row (item.tokens ++ tokens) (item.compact escape ++ rest) := by
  cases item with
  | scalar value => exact Row.scalar escapes value ends others
  | member label value =>
      have closed : Row (.closeObject :: tokens) ('}' :: rest) := .mark rfl others
      have content := Row.scalar escapes value (Text.stops_cons.mpr rfl) closed
      have colon : Row (.colon :: _) (':' :: _) := .mark rfl content
      have opened : Row (.openObject :: _) ('{' :: _) := .mark rfl (Row.quote escapes label colon)
      simpa [Item.tokens, Item.compact] using opened

theorem items (items : List Item) :
    Row (Fields.join .comma (items.map Item.tokens) ++ [.closeList])
      (Fields.join ',' (items.map (Item.compact escape)) ++ [']']) := by
  have closed : Row [.closeList] [']'] := .mark rfl (.nil (by simp))
  induction items with
  | nil => exact closed
  | cons first items induction =>
      cases items with
      | nil => exact Row.item escapes first (Text.stops_cons.mpr rfl) closed
      | cons next items =>
          have comma : Row (.comma :: _) (',' :: _) := .mark rfl induction
          have whole := Row.item escapes first (Text.stops_cons.mpr rfl) comma
          simpa [Fields.join_cons] using whole

end Row

/-- A compact text of a list is a text of it. -/
theorem isText_compact {escape : Char → Text} (escapes : Escapes escape) (items : List Item) :
    IsText (compact escape items) items :=
  Row.mark rfl (Row.items escapes items)

end Json
end CqlText
