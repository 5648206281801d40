import CqlText.Proofs.Surface

/-!
# Templates parsed again and again

The text of a query is a template in its turn. Each placeholder holds a colon, a number sign or a
digit and a marker holds none, so their number goes down with every binding, however the text grows.
The main statements are `length_bindings_add_weight_le`, for one query, and from it
`length_bindings_reparses_le` and `exists_settled`, for queries one after another.
-/

namespace CqlText

namespace Text

/-- Whether a character is a colon, a number sign or a digit. -/
def feeds (symbol : Char) : Bool :=
  symbol == ':' || symbol == '#' || symbol.isDigit

/-- Number of colons, number signs and digits. -/
def weight (text : Text) : Nat :=
  text.countP feeds

@[simp] theorem weight_nil : weight [] = 0 := rfl

@[simp] theorem weight_append (left right : Text) :
    weight (left ++ right) = weight left + weight right :=
  List.countP_append

theorem weight_pos_of_mem {symbol : Char} {text : Text} (member : symbol ∈ text)
    (inside : feeds symbol = true) : 0 < weight text :=
  List.countP_pos_iff.mpr ⟨symbol, member, inside⟩

end Text

namespace Lexeme

/-- A placeholder holds a colon, a number sign or a digit. -/
theorem weight_pos_of_site {policy : TailPolicy} {lexeme : Lexeme} {rest : Text} {binding : Binding}
    (fits : lexeme.Fits rest) (piece_eq : lexeme.piece policy = .site binding) :
    0 < Text.weight lexeme.source := by
  obtain ⟨digits, rfl, _⟩ | ⟨name, rfl, _⟩ | ⟨lead, body, closed, rfl, _⟩ := piece_eq_site piece_eq
  · obtain ⟨digit, digits, rfl⟩ := List.exists_cons_of_ne_nil fits.1.ne_nil
    have member : digit ∈ source (positional (digit :: digits)) := by simp [source]
    have isDigit := fits.1.isDigit digit List.mem_cons_self
    exact Text.weight_pos_of_mem member (by simp [Text.feeds, isDigit])
  · have member : ':' ∈ source (named name) := List.mem_cons_self
    exact Text.weight_pos_of_mem member rfl
  · have member : '#' ∈ source (expression lead body closed) := by simp [source]
    exact Text.weight_pos_of_mem member rfl

end Lexeme

namespace Query

open Text (weight)

@[simp] theorem weight_marker : weight marker = 0 := by decide

/-- A lexeme pays for its binding and for what is written of it. -/
theorem length_bindings_add_weight_lexeme (policy : TailPolicy) {lexeme : Lexeme} {rest : Text}
    (fits : lexeme.Fits rest) :
    (ofPieces [lexeme.piece policy]).bindings.length +
        weight (ofPieces [lexeme.piece policy]).text ≤
      weight lexeme.source := by
  cases piece_eq : lexeme.piece policy with
  | copied text =>
      obtain rfl := Lexeme.piece_eq_copied piece_eq
      rw [ofPieces_copied]
      exact Nat.le_of_eq (Nat.zero_add _)
  | site binding =>
      rw [ofPieces_site, weight_marker]
      exact Lexeme.weight_pos_of_site fits piece_eq

/-- Lexemes pay for their bindings and for what is written of them. -/
theorem length_bindings_add_weight_ofPieces (policy : TailPolicy) {lexemes : List Lexeme}
    {rest : Text} (fit : Template.Fit lexemes rest) :
    (ofPieces (lexemes.map (Lexeme.piece policy))).bindings.length +
        weight (ofPieces (lexemes.map (Lexeme.piece policy))).text ≤
      weight (lexemes.flatMap Lexeme.source) := by
  induction lexemes with
  | nil => simp [ofPieces]
  | cons lexeme lexemes induction =>
      have first := length_bindings_add_weight_lexeme policy fit.1
      have others := induction fit.2
      rw [List.map_cons, ofPieces_cons, bindings_append, List.length_append, text_append,
        Text.weight_append, List.flatMap_cons, Text.weight_append]
      omega

/-- A template pays for its bindings and for its query. -/
theorem length_bindings_add_weight_le (policy : TailPolicy) (template : Text) :
    (parse policy template).bindings.length + weight (parse policy template).text ≤
      weight template := by
  have bound := length_bindings_add_weight_ofPieces policy (Template.fit_lexemes template)
  rwa [Template.lexemes_source] at bound

/-- Without a binding, lexemes are copied. -/
theorem ofPieces_of_bindings_eq_nil {policy : TailPolicy} {lexemes : List Lexeme}
    (noneFound : (ofPieces (lexemes.map (Lexeme.piece policy))).bindings = []) :
    ofPieces (lexemes.map (Lexeme.piece policy)) = ⟨lexemes.flatMap Lexeme.source, [], []⟩ := by
  induction lexemes with
  | nil => rfl
  | cons lexeme lexemes induction =>
      rw [List.map_cons, ofPieces_cons, bindings_append, List.append_eq_nil_iff] at noneFound
      rw [List.map_cons, ofPieces_cons, induction noneFound.2]
      cases piece_eq : lexeme.piece policy with
      | copied text =>
          obtain rfl := Lexeme.piece_eq_copied piece_eq
          rw [ofPieces_copied]
          rfl
      | site binding => simp [piece_eq, ofPieces_site] at noneFound

/-- A template without bindings is its own query. -/
theorem parse_eq_self {policy : TailPolicy} {template : Text}
    (noneFound : (parse policy template).bindings = []) :
    parse policy template = ⟨template, [], []⟩ := by
  have whole := ofPieces_of_bindings_eq_nil noneFound
  rwa [Template.lexemes_source] at whole

theorem text_eq_self_iff (policy : TailPolicy) (template : Text) :
    (parse policy template).text = template ↔ (parse policy template).bindings = [] := by
  constructor
  · intro unchanged
    have bound := length_bindings_add_weight_le policy template
    rw [unchanged] at bound
    exact List.eq_nil_of_length_eq_zero (by omega)
  · intro noneFound
    rw [parse_eq_self noneFound]

/-- The queries of templates of which the first is given and each other one is the text of the query
before it, with a policy for each. -/
def reparses : Text → List TailPolicy → List Query
  | _, [] => []
  | template, policy :: policies =>
      parse policy template :: reparses (parse policy template).text policies

/-- The first template pays for all the bindings that are ever found. -/
theorem length_bindings_reparses_le (template : Text) (policies : List TailPolicy) :
    ((reparses template policies).flatMap bindings).length ≤ weight template := by
  induction policies generalizing template with
  | nil => simp [reparses]
  | cons policy policies induction =>
      have first := length_bindings_add_weight_le policy template
      have others := induction (parse policy template).text
      rw [reparses, List.flatMap_cons, List.length_append]
      omega

/-- What becomes of a template that is parsed a number of times under one policy. -/
def reparsed (policy : TailPolicy) : Nat → Text → Text
  | 0, template => template
  | steps + 1, template => reparsed policy steps (parse policy template).text

theorem exists_settled (policy : TailPolicy) (template : Text) :
    ∃ steps ≤ weight template,
      parse policy (reparsed policy steps template) = ⟨reparsed policy steps template, [], []⟩ := by
  by_cases settled : (parse policy template).bindings = []
  · exact ⟨0, Nat.zero_le _, parse_eq_self settled⟩
  · have found := List.length_pos_iff.mpr settled
    have paid := length_bindings_add_weight_le policy template
    obtain ⟨steps, within, reached⟩ := exists_settled policy (parse policy template).text
    exact ⟨steps + 1, by omega, reached⟩
termination_by weight template

/-- A template stays as it is exactly if it has no bindings; the colons, number signs and digits of
a template bound the bindings that are found in it and in all the texts that come of it, and the
number of steps after which there is nothing left to find. -/
theorem reparsing_settles (policy : TailPolicy) (template : Text) :
    ((parse policy template).text = template ↔ (parse policy template).bindings = []) ∧
      (parse policy template).bindings.length + weight (parse policy template).text ≤
        weight template ∧
      (∀ policies, ((reparses template policies).flatMap bindings).length ≤ weight template) ∧
      ∃ steps ≤ weight template,
        parse policy (reparsed policy steps template) =
          ⟨reparsed policy steps template, [], []⟩ :=
  ⟨text_eq_self_iff policy template, length_bindings_add_weight_le policy template,
    length_bindings_reparses_le template, exists_settled policy template⟩

/-- The marker of an expression and the digit behind it make a placeholder. -/
example : (reparses ":#\x7ba\x7d0".toList [.absorb, .verbatim, .absorb]).map bindings =
    [[.expression .colon ['a']], [.positional 0], []] := by decide +kernel

end Query
end CqlText
