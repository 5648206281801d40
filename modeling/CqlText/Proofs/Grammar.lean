import CqlText.Proofs.Fit
import CqlText.Query.Parse

/-!
# The grammar of templates

A template is a row of tokens, each of which is allowed where it stands by the text behind it and by
the policy. The main statements are `Template.valid_iff`, by which every template is such a row in
exactly one way, and `Token.parse_eq_query_tokens`, by which parsing gives the query that the row
spells out.
-/

namespace CqlText

/-- A part of a template as a policy sees it. -/
inductive Token where
  /-- A character outside literals and placeholders. -/
  | character (symbol : Char)
  /-- A string literal, with its closing quote or without. -/
  | literal (content : Text) (closed : Bool)
  /-- The text from an expression that is never closed up to the end. -/
  | tail (lead : Lead) (source : Text)
  /-- A positional placeholder, with its index as written. -/
  | positional (digits : Text)
  /-- A named placeholder. -/
  | named (name : Text)
  /-- An expression placeholder. -/
  | expression (lead : Lead) (source : Text)
  /-- An expression placeholder that is never closed and goes up to the end. -/
  | absorbed (lead : Lead) (source : Text)
deriving DecidableEq

namespace Token

/-- The text of a token in a template. -/
def source : Token → Text
  | character symbol => [symbol]
  | literal content closed => '\'' :: content ++ Text.closing '\'' closed
  | tail lead source => lead.symbol :: '#' :: '{' :: source
  | positional digits => '?' :: digits
  | named name => ':' :: name
  | expression lead source => lead.symbol :: '#' :: '{' :: source ++ ['}']
  | absorbed lead source => lead.symbol :: '#' :: '{' :: source

/-- A placeholder starts a text, be it closed or not. -/
inductive Opens : Text → Prop
  /-- An expression. -/
  | expression (lead : Lead) {source : Text} (rest : Text) (free : '}' ∉ source) :
      Opens (lead.symbol :: '#' :: '{' :: source ++ '}' :: rest)
  /-- An expression that is never closed. -/
  | openExpression (lead : Lead) {source : Text} (free : '}' ∉ source) :
      Opens (lead.symbol :: '#' :: '{' :: source)
  /-- An index that a 64-bit word holds. -/
  | positional {digits rest : Text} (numeral : Decimal.IsNumeral digits)
      (small : Decimal.value digits < UInt64.size) (stops : Text.Stops Char.isDigit rest) :
      Opens ('?' :: digits ++ rest)
  /-- A name. -/
  | named {name rest : Text} (isName : name.IsName) (ends : rest.EndsName) :
      Opens (':' :: name ++ rest)

/-- A policy allows a token in front of a text. -/
def Allowed (policy : TailPolicy) : Token → Text → Prop
  | character symbol, rest => symbol ≠ '\'' ∧ ¬ Opens (symbol :: rest)
  | literal content closed, rest => '\'' ∉ content ∧ (closed = false → rest = [])
  | tail _ source, rest => policy = .verbatim ∧ '}' ∉ source ∧ rest = []
  | positional digits, rest =>
      Decimal.IsNumeral digits ∧ Decimal.value digits < UInt64.size ∧ Text.Stops Char.isDigit rest
  | named name, rest => name.IsName ∧ rest.EndsName
  | expression _ source, _ => '}' ∉ source
  | absorbed _ source, rest => policy = .absorb ∧ '}' ∉ source ∧ rest = []

/-- The binding of a placeholder. -/
def binding? : Token → Option Binding
  | positional digits => some (.positional (UInt64.ofNat (Decimal.value digits)))
  | named name => some (.named name)
  | expression lead source => some (.expression lead source)
  | absorbed lead source => some (.expression lead source)
  | _ => none

/-- The text of a token in a normalised query: a marker for a placeholder, else its own. -/
def written (token : Token) : Text :=
  if token.binding?.isSome then Query.marker else token.source

/-- The byte offset of the marker that the token at a position becomes, if it becomes one. -/
def siteAt (tokens : List Token) (position : Nat) : Option Nat :=
  (tokens[position]?.bind binding?).map fun _ =>
    Text.byteLength ((tokens.take position).flatMap written)

/-- The byte offsets of the markers in the text that tokens become. -/
def sites (tokens : List Token) : List Nat :=
  (List.range tokens.length).filterMap (siteAt tokens)

/-- The query that tokens spell out. -/
def query (tokens : List Token) : Query where
  text := tokens.flatMap written
  bindings := tokens.filterMap binding?
  sites := sites tokens

/-- A template is a row of tokens that the policy allows where they stand. -/
structure Valid (policy : TailPolicy) (template : Text) (tokens : List Token) : Prop where
  /-- The tokens make up the template. -/
  sources : tokens.flatMap source = template
  /-- Each one is allowed in front of those behind it. -/
  allowed : ∀ before token after, tokens = before ++ token :: after →
    token.Allowed policy (after.flatMap source)

end Token

/-- The token that a lexeme is under a policy. -/
def Lexeme.token (policy : TailPolicy) : Lexeme → Token
  | .character symbol => .character symbol
  | .literal content closed => .literal content closed
  | .overflow _ => .character '?'
  | .positional digits => .positional digits
  | .named name => .named name
  | .expression lead source true => .expression lead source
  | .expression lead source false =>
      match policy with
      | .absorb => .absorbed lead source
      | .verbatim => .tail lead source

/-- The tokens of a template. -/
def Template.tokens (policy : TailPolicy) (template : Text) : List Token :=
  (lexemes template).map (Lexeme.token policy)

namespace Lexeme

/-- Whether a lexeme is a placeholder, be it closed or not. -/
def isPlaceholder : Lexeme → Bool
  | positional _ => true
  | named _ => true
  | expression _ _ _ => true
  | _ => false

theorem source_token (policy : TailPolicy) (lexeme : Lexeme) :
    (lexeme.token policy).source = lexeme.source := by
  rcases lexeme with _ | _ | _ | _ | _ | ⟨_, _, _ | _⟩ <;> cases policy <;>
    simp [token, source, Token.source]

theorem binding?_token (policy : TailPolicy) (lexeme : Lexeme) :
    (lexeme.token policy).binding? = (lexeme.piece policy).binding? := by
  rcases lexeme with _ | _ | _ | _ | _ | ⟨_, _, _ | _⟩ <;> cases policy <;> rfl

theorem written_token (policy : TailPolicy) (lexeme : Lexeme) :
    (lexeme.token policy).written = (lexeme.piece policy).text := by
  rcases lexeme with _ | _ | _ | _ | _ | ⟨_, _, _ | _⟩ <;> cases policy <;>
    simp [Token.written, Token.binding?, token, Token.source, piece, Piece.text, source]

theorem isPlaceholder_of_opens {first : Char} {tail : Text} (opens : Token.Opens (first :: tail)) :
    (read first tail).1.isPlaceholder = true := by
  generalize text_eq : first :: tail = text at opens
  cases opens with
  | @expression lead body rest free =>
      have fits : (expression lead body true).Fits rest := ⟨free, by simp⟩
      rw [read_of_fits fits (by simp [text_eq, source])]
      rfl
  | @openExpression lead body free =>
      have fits : (expression lead body false).Fits [] := ⟨free, by simp⟩
      rw [read_of_fits fits (by simp [text_eq, source])]
      rfl
  | @positional digits rest numeral small stops =>
      have fits : (positional digits).Fits rest := ⟨numeral, small, stops⟩
      rw [read_of_fits fits text_eq.symm]
      rfl
  | @named name rest isName ends =>
      have fits : (named name).Fits rest := ⟨isName, Text.endsName_iff.mp ends⟩
      rw [read_of_fits fits text_eq.symm]
      rfl

theorem opens_of_isPlaceholder {lexeme : Lexeme} {rest : Text} (fits : lexeme.Fits rest)
    (placeholder : lexeme.isPlaceholder = true) : Token.Opens (lexeme.source ++ rest) := by
  cases lexeme with
  | positional digits => exact .positional fits.1 fits.2.1 fits.2.2
  | named name => exact .named fits.1 (Text.endsName_iff.mpr fits.2)
  | expression lead body closed =>
      cases closed with
      | true => simpa [source] using Token.Opens.expression lead rest fits.1
      | false =>
          obtain rfl := fits.2 rfl
          simpa [source] using Token.Opens.openExpression lead fits.1
  | _ => simp [isPlaceholder] at placeholder

theorem allowed_token (policy : TailPolicy) {lexeme : Lexeme} {rest : Text}
    (fits : lexeme.Fits rest) : (lexeme.token policy).Allowed policy rest := by
  cases lexeme with
  | character symbol =>
      refine ⟨fits.unquoted, ?_⟩
      intro opens
      have placeholder := isPlaceholder_of_opens opens
      rw [read_of_plain fits] at placeholder
      simp [isPlaceholder] at placeholder
  | overflow digits =>
      refine ⟨by decide, ?_⟩
      intro opens
      have placeholder := isPlaceholder_of_opens opens
      have found : read '?' rest = (overflow digits, rest) := read_of_fits fits rfl
      simp [found, isPlaceholder] at placeholder
  | literal content closed => exact fits
  | positional digits => exact fits
  | named name => exact ⟨fits.1, Text.endsName_iff.mpr fits.2⟩
  | expression lead body closed =>
      cases closed with
      | true => exact fits.1
      | false =>
          cases policy with
          | absorb => exact ⟨rfl, fits.1, fits.2 rfl⟩
          | verbatim => exact ⟨rfl, fits.1, fits.2 rfl⟩

theorem read_of_unopened {symbol : Char} {rest : Text} (unquoted : symbol ≠ '\'')
    (unopened : ¬ Token.Opens (symbol :: rest)) (policy : TailPolicy) :
    (read symbol rest).1.token policy = .character symbol ∧ (read symbol rest).2 = rest := by
  have fits := fits_read symbol rest
  have whole := read_source symbol rest
  generalize (read symbol rest).1 = lexeme at fits whole
  generalize (read symbol rest).2 = after at fits whole
  have plain : lexeme.isPlaceholder = false := by
    rw [Bool.eq_false_iff]
    intro placeholder
    exact unopened (whole ▸ opens_of_isPlaceholder fits placeholder)
  cases lexeme with
  | character other =>
      obtain ⟨rfl, rfl⟩ : other = symbol ∧ after = rest := by simpa [source] using whole
      exact ⟨rfl, rfl⟩
  | overflow digits =>
      obtain ⟨rfl, rfl⟩ : '?' = symbol ∧ after = rest := by simpa [source] using whole
      exact ⟨rfl, rfl⟩
  | literal content closed => exact absurd (List.cons.inj whole).1.symm unquoted
  | _ => simp [isPlaceholder] at plain

/-- A token that is allowed in front of a text is read there. -/
theorem read_of_allowed {policy : TailPolicy} {token : Token} {first : Char} {tail rest : Text}
    (allowed : token.Allowed policy rest) (source_eq : token.source ++ rest = first :: tail) :
    (read first tail).1.token policy = token ∧ (read first tail).2 = rest := by
  have of_lexeme (lexeme : Lexeme) (fits : lexeme.Fits rest)
      (same : lexeme.token policy = token) :
      (read first tail).1.token policy = token ∧ (read first tail).2 = rest := by
    have whole : lexeme.source ++ rest = first :: tail := by
      rw [← lexeme.source_token policy, same, source_eq]
    rw [read_of_fits fits whole]
    exact ⟨same, rfl⟩
  cases token with
  | character symbol =>
      obtain ⟨rfl, rfl⟩ : symbol = first ∧ rest = tail := by
        simpa [Token.source] using source_eq
      exact read_of_unopened allowed.1 allowed.2 policy
  | literal content closed => exact of_lexeme (literal content closed) allowed rfl
  | tail lead body =>
      obtain ⟨rfl, free, rfl⟩ := allowed
      exact of_lexeme (expression lead body false) ⟨free, fun _ => rfl⟩ rfl
  | positional digits => exact of_lexeme (positional digits) allowed rfl
  | named name =>
      obtain ⟨isName, ends⟩ := allowed
      exact of_lexeme (named name) ⟨isName, Text.endsName_iff.mp ends⟩ rfl
  | expression lead body => exact of_lexeme (expression lead body true) ⟨allowed, by simp⟩ rfl
  | absorbed lead body =>
      obtain ⟨rfl, free, rfl⟩ := allowed
      exact of_lexeme (expression lead body false) ⟨free, fun _ => rfl⟩ rfl

end Lexeme

namespace Token

theorem source_ne_nil (token : Token) : token.source ≠ [] := by
  cases token <;> simp [source]

theorem valid_nil {policy : TailPolicy} {template : Text} :
    Valid policy template [] ↔ template = [] := by
  constructor
  · intro valid
    exact valid.sources.symm
  · rintro rfl
    exact ⟨rfl, by simp⟩

theorem valid_cons {policy : TailPolicy} {template : Text} {token : Token} {tokens : List Token} :
    Valid policy template (token :: tokens) ↔
      ∃ rest, template = token.source ++ rest ∧ token.Allowed policy rest ∧
        Valid policy rest tokens := by
  constructor
  · intro valid
    refine ⟨tokens.flatMap source, valid.sources.symm, valid.allowed [] token tokens rfl, rfl, ?_⟩
    rintro before other after rfl
    exact valid.allowed (token :: before) other after rfl
  · rintro ⟨rest, rfl, allowed, valid⟩
    refine ⟨by rw [List.flatMap_cons, valid.sources], ?_⟩
    intro before other after parts
    cases before with
    | nil =>
        obtain ⟨rfl, rfl⟩ := List.cons.inj parts
        rwa [valid.sources]
    | cons first before =>
        exact valid.allowed before other after (List.cons.inj parts).2

end Token

namespace Template

/-- A template is the row of its own tokens and of no others. -/
theorem valid_iff {policy : TailPolicy} {template : Text} {row : List Token} :
    Token.Valid policy template row ↔ row = tokens policy template := by
  constructor
  · intro valid
    induction row generalizing template with
    | nil =>
        obtain rfl := Token.valid_nil.mp valid
        simp [tokens]
    | cons token row induction =>
        obtain ⟨rest, rfl, allowed, valid⟩ := Token.valid_cons.mp valid
        obtain ⟨first, tail, source_eq⟩ := List.exists_cons_of_ne_nil token.source_ne_nil
        have whole : token.source ++ rest = first :: (tail ++ rest) := by
          rw [source_eq, List.cons_append]
        obtain ⟨token_eq, rest_eq⟩ := Lexeme.read_of_allowed allowed whole
        rw [whole, tokens, lexemes_cons, List.map_cons, token_eq, rest_eq, induction valid, tokens]
  · rintro rfl
    induction template using lexemeInduction with
    | nil => simp [tokens, Token.valid_nil]
    | cons first tail induction =>
        rw [tokens, lexemes_cons, List.map_cons, Token.valid_cons]
        refine ⟨(Lexeme.read first tail).2, ?_, ?_, induction⟩
        · rw [Lexeme.source_token, Lexeme.read_source]
        · exact Lexeme.allowed_token policy (Lexeme.fits_read first tail)

end Template

namespace Token

theorem siteAt_zero (token : Token) (tokens : List Token) :
    siteAt (token :: tokens) 0 = token.binding?.map fun _ => 0 := rfl

theorem siteAt_succ (token : Token) (tokens : List Token) (position : Nat) :
    siteAt (token :: tokens) (position + 1) =
      (siteAt tokens position).map (Text.byteLength token.written + ·) := by
  rw [siteAt, siteAt, List.getElem?_cons_succ, List.take_succ_cons, List.flatMap_cons]
  cases tokens[position]?.bind binding? <;> simp

theorem sites_cons (token : Token) (tokens : List Token) :
    sites (token :: tokens) =
      (token.binding?.map fun _ => 0).toList ++
        (sites tokens).map (Text.byteLength token.written + ·) := by
  have behind : siteAt (token :: tokens) ∘ Nat.succ =
      fun position => (siteAt tokens position).map (Text.byteLength token.written + ·) :=
    funext (siteAt_succ token tokens)
  rw [sites, List.length_cons, List.range_succ_eq_map, List.filterMap_cons, List.filterMap_map,
    behind, siteAt_zero, sites, List.map_filterMap]
  cases token.binding? <;> rfl

theorem siteOffsets_eq (policy : TailPolicy) (offset : Nat) (lexemes : List Lexeme) :
    Query.siteOffsets offset (lexemes.map (Lexeme.piece policy)) =
      (sites (lexemes.map (Lexeme.token policy))).map (offset + ·) := by
  induction lexemes generalizing offset with
  | nil => rfl
  | cons lexeme lexemes induction =>
      rw [List.map_cons, List.map_cons, sites_cons, lexeme.binding?_token, lexeme.written_token]
      cases lexeme.piece policy with
      | copied text =>
          simp [Query.siteOffsets, Piece.binding?, Piece.text, induction, Function.comp_def,
            Nat.add_assoc]
      | site binding =>
          simp [Query.siteOffsets, Piece.binding?, Piece.text, induction, Function.comp_def,
            Nat.add_assoc]

/-- Parsing gives the query that the tokens of a template spell out. -/
theorem parse_eq_query_tokens (policy : TailPolicy) (template : Text) :
    Query.parse policy template = query (Template.tokens policy template) := by
  rw [Query.parse, Template.pieces]
  ext1
  · simp [Query.ofPieces, query, Template.tokens, List.flatMap_map, Lexeme.written_token]
  · have same : binding? ∘ Lexeme.token policy = Piece.binding? ∘ Lexeme.piece policy :=
      funext (Lexeme.binding?_token policy)
    rw [query, Template.tokens, List.filterMap_map, same, ← List.filterMap_map]
    rfl
  · simp [Query.ofPieces, query, Template.tokens, siteOffsets_eq]

end Token

namespace Template

/-- Exactly one row of tokens makes up a template, and parsing gives the query that it spells
out. -/
theorem parsed_by_only_row (policy : TailPolicy) (template : Text) :
    ∃ row, Token.Valid policy template row ∧
      (∀ other, Token.Valid policy template other → other = row) ∧
      Query.parse policy template = Token.query row :=
  ⟨tokens policy template, valid_iff.mpr rfl, fun _ valid => valid_iff.mp valid,
    Token.parse_eq_query_tokens policy template⟩

/-- A quote inside an expression, an index that is too large, a name and an open expression in one
row. -/
theorem parsed_by_only_row_mixed :
    Token.Valid .verbatim "é?#\x7b'\x7d?99999999999999999999':0'?07:ß_1:#\x7bü".toList
        ([.character 'é', .expression .question ['\''], .character '?'] ++
          List.replicate 20 (.character '9') ++
          [.literal [':', '0'] true, .positional ['0', '7'], .named ['ß', '_', '1'],
            .tail .colon ['ü']]) ∧
      Query.parse .verbatim "é?#\x7b'\x7d?99999999999999999999':0'?07:ß_1:#\x7bü".toList =
        ⟨"é?_param_??99999999999999999999':0'?_param_??_param_?:#\x7bü".toList,
          [.expression .question ['\''], .positional 7, .named ['ß', '_', '1']], [2, 36, 45]⟩ := by
  obtain ⟨row, _, only, parse_eq⟩ := parsed_by_only_row .verbatim
    "é?#\x7b'\x7d?99999999999999999999':0'?07:ß_1:#\x7bü".toList
  refine ⟨valid_iff.mpr (by decide +kernel), ?_⟩
  rw [parse_eq, ← only _ (valid_iff.mpr rfl)]
  decide +kernel

end Template
end CqlText
