import CqlText.Proofs.Reparsing
import CqlText.Proofs.Substitution

/-!
# Queries that hold no placeholder

A marker ends in a lead, so what stands behind a placeholder may make a new one of it. Where no
placeholder has a digit or `#{` behind it, nothing new arises. The main statements are `fit_marked`,
by which the characters of a mark and the lexemes between are read as they stand, and
`Query.reparse_of_unglued`, by which queries and texts with question marks are parsed to themselves.
-/

namespace CqlText

namespace Lexeme

/-- A character that is neither a quote nor a lead is plain in front of any text. -/
theorem plain_of_ne {symbol : Char} (unquoted : symbol ≠ '\'')
    (noLead : Lead.ofSymbol? symbol = none) (rest : Text) : Plain symbol rest := by
  refine ⟨unquoted, ?_⟩
  rintro lead rfl
  simp at noLead

/-- What a lexeme becomes if placeholders are replaced by a mark that is read character by
character. -/
def marked (policy : TailPolicy) (mark : Text) (lexeme : Lexeme) : List Lexeme :=
  match lexeme.piece policy with
  | .copied _ => [lexeme]
  | .site _ => mark.map .character

theorem flatMap_source_character (text : Text) : (text.map character).flatMap source = text := by
  simp [List.flatMap_map, source]

end Lexeme

namespace Template

/-- No placeholder among lexemes has a digit or `#{` directly behind it. -/
def Unglued (policy : TailPolicy) : List Lexeme → Prop
  | [] => True
  | lexeme :: lexemes =>
      ((lexeme.piece policy).binding?.isSome = true →
          Text.Stops Char.isDigit (lexemes.flatMap Lexeme.source) ∧
            Lexeme.body? (lexemes.flatMap Lexeme.source) = none) ∧
        Unglued policy lexemes

instance decidableUnglued (policy : TailPolicy) :
    (lexemes : List Lexeme) → Decidable (Unglued policy lexemes)
  | [] => isTrue trivial
  | _ :: lexemes =>
      have := decidableUnglued policy lexemes
      inferInstanceAs (Decidable ((_ → _ ∧ _) ∧ _))

/-- A text that starts with a lead and whose characters stay characters, unless what follows is
glued to it. -/
structure Inert (mark : Text) : Prop where
  /-- It starts as a placeholder does. -/
  starts : ∃ lead tail, mark = Lead.symbol lead :: tail
  /-- Its characters are lexemes of their own. -/
  fit : ∀ rest, Text.Stops Char.isDigit rest → Lexeme.body? rest = none →
    Fit (mark.map .character) rest

theorem inert_question : Inert ['?'] := by
  refine ⟨⟨.question, [], rfl⟩, ?_⟩
  intro rest stops unopened
  exact ⟨Lexeme.plain_lead .question unopened stops, trivial⟩

theorem fit_of_plain {text : Text}
    (plain : ∀ symbol ∈ text, symbol ≠ '\'' ∧ Lead.ofSymbol? symbol = none) (rest : Text) :
    Fit (text.map .character) rest := by
  induction text with
  | nil => trivial
  | cons symbol text induction =>
      rw [List.forall_mem_cons] at plain
      exact ⟨Lexeme.plain_of_ne plain.1.1 plain.1.2 _, induction plain.2⟩

theorem inert_marker : Inert Query.marker := by
  refine ⟨⟨.question, _, rfl⟩, ?_⟩
  intro rest stops unopened
  have between : Fit (['_', 'p', 'a', 'r', 'a', 'm', '_'].map .character) ('?' :: rest) :=
    fit_of_plain (by simp [Lead.ofSymbol?]) _
  have first : Lexeme.Plain '?' ('_' :: 'p' :: 'a' :: 'r' :: 'a' :: 'm' :: '_' :: '?' :: rest) :=
    Lexeme.plain_lead .question rfl (Text.stops_cons.mpr (by decide))
  exact ⟨first, fit_append.mpr ⟨between, inert_question.fit rest stops unopened⟩⟩

/-- Lexemes with a mark in the place of each placeholder. -/
def marked (policy : TailPolicy) (mark : Text) (lexemes : List Lexeme) : List Lexeme :=
  lexemes.flatMap (Lexeme.marked policy mark)

section

variable {policy : TailPolicy} {mark : Text}

theorem marked_copied {lexeme : Lexeme} {text : Text}
    (piece_eq : lexeme.piece policy = .copied text) (lexemes : List Lexeme) :
    marked policy mark (lexeme :: lexemes) = lexeme :: marked policy mark lexemes := by
  simp [marked, Lexeme.marked, piece_eq]

theorem marked_site {lexeme : Lexeme} {binding : Binding}
    (piece_eq : lexeme.piece policy = .site binding) (lexemes : List Lexeme) :
    marked policy mark (lexeme :: lexemes) = mark.map .character ++ marked policy mark lexemes := by
  simp [marked, Lexeme.marked, piece_eq]

theorem alike_marked (inert : Inert mark) (lexemes : List Lexeme) :
    Text.Alike (lexemes.flatMap Lexeme.source)
      ((marked policy mark lexemes).flatMap Lexeme.source) := by
  induction lexemes with
  | nil => exact .nil
  | cons lexeme lexemes induction =>
      cases piece_eq : lexeme.piece policy with
      | copied text =>
          rw [marked_copied piece_eq]
          exact induction.append lexeme.source
      | site binding =>
          obtain ⟨lead, tail, source_eq⟩ := Lexeme.exists_source_of_piece_eq_site piece_eq
          obtain ⟨other, rest, rfl⟩ := inert.starts
          rw [marked_site piece_eq, List.flatMap_append, Lexeme.flatMap_source_character,
            List.flatMap_cons, source_eq]
          exact .lead lead other _ _

/-- Where nothing is glued to a placeholder, marks and the lexemes between them are read as they
stand. -/
theorem fit_marked (inert : Inert mark) {lexemes : List Lexeme} (fit : Fit lexemes [])
    (unglued : Unglued policy lexemes) : Fit (marked policy mark lexemes) [] := by
  induction lexemes with
  | nil => trivial
  | cons lexeme lexemes induction =>
      have others := induction fit.2 unglued.2
      -- Behind the lexeme the text changes from a lead on only, and reading does not reach beyond.
      have alike : Text.Alike (lexemes.flatMap Lexeme.source)
          ((marked policy mark lexemes).flatMap Lexeme.source) := alike_marked inert lexemes
      have fits := fit.1
      rw [List.append_nil] at fits
      cases piece_eq : lexeme.piece policy with
      | copied text =>
          rw [marked_copied piece_eq]
          refine ⟨?_, others⟩
          rw [List.append_nil]
          exact fits.alike alike
      | site binding =>
          obtain ⟨stops, unopened⟩ := unglued.1 (by rw [piece_eq]; rfl)
          rw [marked_site piece_eq, fit_append, List.append_nil]
          exact ⟨inert.fit _ (alike.stops Lead.outside_isDigit stops)
            (alike.body?_eq_none unopened), others⟩

theorem bindings_marked (lexemes : List Lexeme) :
    (Query.ofPieces ((marked policy mark lexemes).map (Lexeme.piece policy))).bindings = [] := by
  induction lexemes with
  | nil => rfl
  | cons lexeme lexemes induction =>
      cases piece_eq : lexeme.piece policy with
      | copied text =>
          rw [marked_copied piece_eq, List.map_cons, piece_eq]
          exact induction
      | site binding =>
          rw [marked_site piece_eq, List.map_append, Query.ofPieces_append, Query.bindings_append,
            induction, List.append_nil]
          simp [Query.ofPieces, List.filterMap_map, Lexeme.piece, Piece.binding?]

/-- What rendering writes with a mark for each placeholder. -/
theorem weave_marked (lexemes : List Lexeme) :
    Query.weave (Query.copiedStretches (lexemes.map (Lexeme.piece policy)))
        ((Query.ofPieces (lexemes.map (Lexeme.piece policy))).bindings.map fun _ => mark) =
      (marked policy mark lexemes).flatMap Lexeme.source := by
  induction lexemes with
  | nil => rfl
  | cons lexeme lexemes induction =>
      cases piece_eq : lexeme.piece policy with
      | copied text =>
          obtain rfl := Lexeme.piece_eq_copied piece_eq
          rw [marked_copied piece_eq, List.map_cons, piece_eq, Query.weave_copied,
            List.flatMap_cons, ← induction]
          rfl
      | site binding =>
          rw [marked_site piece_eq, List.map_cons, piece_eq, Query.ofPieces_cons,
            Query.bindings_append, List.map_append, List.flatMap_append,
            Lexeme.flatMap_source_character, ← induction]
          exact Query.weave_site ..

end

end Template

namespace Query

/-- Rendered with one text for all markers, a query is its template with that text for each
placeholder. -/
theorem render_fixed (policy : TailPolicy) (mark template : Text) :
    (parse policy template).render (.fixed mark) =
      some ((Template.marked policy mark (Template.lexemes template)).flatMap Lexeme.source) := by
  have rendered := replaceMarkers_ofPieces (MarkerStyle.fixed mark).replacement []
    (Template.pieces policy template)
  rw [replacements_fixed] at rendered
  rw [render, parse, rendered, Option.map_some, ← Template.weave_marked]
  rfl

/-- The text of a query is what rendering writes with the marker itself. -/
theorem render_marker (policy : TailPolicy) (template : Text) :
    (parse policy template).render (.fixed marker) = some (parse policy template).text := by
  have found := stretches?_ofPieces (Template.pieces policy template)
  have paired := length_sites_ofPieces (Template.pieces policy template)
  obtain ⟨_, weave_eq⟩ := weave_marker found
  rw [paired] at weave_eq
  exact (render_fixed_of_stretches? found paired marker).trans (congrArg some weave_eq)

/-- Where nothing is glued to a placeholder, a text with inert marks is parsed to itself. -/
theorem parse_rendered_inert {policy : TailPolicy} {mark template rendered : Text}
    (inert : Template.Inert mark)
    (unglued : Template.Unglued policy (Template.lexemes template))
    (rendering : (parse policy template).render (.fixed mark) = some rendered) :
    parse policy rendered = ⟨rendered, [], []⟩ := by
  rw [render_fixed] at rendering
  obtain rfl := Option.some.inj rendering
  have fit := Template.fit_marked inert (Template.fit_lexemes template) unglued
  apply parse_eq_self
  rw [parse, Template.pieces, Template.lexemes_of_fit fit, Template.bindings_marked]

/-- A query holds no placeholder, and neither does what comes of question marks for its markers, if
no placeholder of the template has a digit or `#{` behind it. -/
theorem reparse_of_unglued {policy : TailPolicy} {template : Text}
    (unglued : Template.Unglued policy (Template.lexemes template)) :
    parse policy (parse policy template).text = ⟨(parse policy template).text, [], []⟩ ∧
      ∃ rendered, (parse policy template).render (.fixed ['?']) = some rendered ∧
        parse policy rendered = ⟨rendered, [], []⟩ := by
  refine ⟨?_, _, render_fixed policy ['?'] template, ?_⟩
  · exact parse_rendered_inert Template.inert_marker unglued (render_marker policy template)
  · exact parse_rendered_inert Template.inert_question unglued (render_fixed policy _ template)

/-- Placeholders in a literal, a quote in an expression, an index that is too large in front of a
name, and an expression that is never closed. -/
theorem reparse_of_unglued_mixed :
    Template.Unglued .verbatim
        (Template.lexemes "é:a'?0'?#?#\x7b'\x7d:?99999999999999999999:_?7 :#\x7b'?0".toList) ∧
      (parse .verbatim "é:a'?0'?#?#\x7b'\x7d:?99999999999999999999:_?7 :#\x7b'?0".toList).bindings =
        [.named ['a'], .expression .question ['\''], .named ['_'], .positional 7] ∧
      parse .verbatim
          "é?_param_?'?0'?#?_param_?:?99999999999999999999?_param_??_param_? :#\x7b'?0".toList =
        ⟨"é?_param_?'?0'?#?_param_?:?99999999999999999999?_param_??_param_? :#\x7b'?0".toList,
          [], []⟩ ∧
      parse .verbatim "é?'?0'?#?:?99999999999999999999?? :#\x7b'?0".toList =
        ⟨"é?'?0'?#?:?99999999999999999999?? :#\x7b'?0".toList, [], []⟩ := by
  have unglued : Template.Unglued .verbatim
      (Template.lexemes "é:a'?0'?#?#\x7b'\x7d:?99999999999999999999:_?7 :#\x7b'?0".toList) := by
    decide +kernel
  have text_eq :
      (parse .verbatim "é:a'?0'?#?#\x7b'\x7d:?99999999999999999999:_?7 :#\x7b'?0".toList).text =
        "é?_param_?'?0'?#?_param_?:?99999999999999999999?_param_??_param_? :#\x7b'?0".toList := by
    decide +kernel
  have rendered_eq :
      (parse .verbatim "é:a'?0'?#?#\x7b'\x7d:?99999999999999999999:_?7 :#\x7b'?0".toList).render
          (.fixed ['?']) =
        some "é?'?0'?#?:?99999999999999999999?? :#\x7b'?0".toList := by
    decide +kernel
  obtain ⟨again, rendered, rendering, inert⟩ := reparse_of_unglued unglued
  rw [text_eq] at again
  obtain rfl := Option.some.inj (rendered_eq.symm.trans rendering)
  exact ⟨unglued, by decide +kernel, again, inert⟩

end Query
end CqlText
