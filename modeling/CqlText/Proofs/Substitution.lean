import CqlText.Proofs.Surface
import Mathlib.Data.List.Forall2

/-!
# Placeholders in the place of others

A placeholder may be written over by another of its kind or by an expression, and nothing else in
the template is read differently. The main statement is `parse_weave`: parsing what a query becomes
with other placeholders at its markers changes the bindings alone.
-/

namespace CqlText

/-- Texts that are equal up to a lead that both have in the same place, or up to the end. -/
inductive Text.Alike : Text → Text → Prop
  /-- The end of both. -/
  | nil : Alike [] []
  /-- A lead in both, with anything behind it. -/
  | lead (left right : Lead) (tail other : Text) :
      Alike (left.symbol :: tail) (right.symbol :: other)
  /-- A character in both. -/
  | cons (symbol : Char) {tail other : Text} (alike : Alike tail other) :
      Alike (symbol :: tail) (symbol :: other)

/-- The class holds no lead. -/
def Lead.Outside (inside : Char → Bool) : Prop :=
  ∀ lead : Lead, inside lead.symbol = false

theorem Lead.outside_continuesName : Outside Text.continuesName := by
  intro lead
  cases lead <;> decide

theorem Lead.outside_begins (other : Lead) : Outside other.begins := by
  intro lead
  cases lead <;> cases other <;> decide

theorem Lead.outside_isDigit : Outside Char.isDigit :=
  outside_begins question

namespace Text.Alike

theorem append (front : Text) {left right : Text} (alike : Alike left right) :
    Alike (front ++ left) (front ++ right) := by
  induction front with
  | nil => exact alike
  | cons symbol front induction => exact .cons symbol induction

theorem eq_nil {text : Text} (alike : Alike [] text) : text = [] := by
  cases alike
  rfl

theorem stops {inside : Char → Bool} (outside : Lead.Outside inside) {left right : Text}
    (alike : Alike left right) (stops : Stops inside left) : Stops inside right := by
  cases alike with
  | nil => exact stops
  | lead first second tail other => exact stops_cons.mpr (outside second)
  | cons symbol alike => exact stops_cons.mpr (stops_cons.mp stops)

theorem body?_eq_none {left right : Text} (alike : Alike left right)
    (unopened : Lexeme.body? left = none) : Lexeme.body? right = none := by
  have ne_sharp (lead : Lead) : lead.symbol ≠ '#' := by cases lead <;> decide
  have ne_brace (lead : Lead) : lead.symbol ≠ '{' := by cases lead <;> decide
  rw [Lexeme.body?_eq_none_iff] at unopened ⊢
  rintro body rfl
  generalize text_eq : '#' :: '{' :: body = text at alike
  cases alike with
  | nil => simp at text_eq
  | lead first second tail other => exact ne_sharp second (List.cons.inj text_eq).1.symm
  | @cons symbol tail other alike =>
      obtain ⟨rfl, rfl⟩ := List.cons.inj text_eq
      generalize rest_eq : '{' :: body = rest at alike
      cases alike with
      | nil => simp at rest_eq
      | lead first second tail other => exact ne_brace second (List.cons.inj rest_eq).1.symm
      | cons symbol alike =>
          obtain ⟨rfl, rfl⟩ := List.cons.inj rest_eq
          exact unopened _ rfl

theorem run {inside : Char → Bool} (outside : Lead.Outside inside) {front after text : Text}
    (members : ∀ symbol ∈ front, inside symbol = true) (alike : Alike (front ++ after) text) :
    ∃ other, text = front ++ other ∧ Alike after other := by
  induction front generalizing text with
  | nil => exact ⟨text, rfl, alike⟩
  | cons symbol front induction =>
      generalize whole : symbol :: front ++ after = left at alike
      cases alike with
      | nil => simp at whole
      | lead first second tail other =>
          have := members symbol List.mem_cons_self
          rw [(List.cons.inj whole).1, outside first] at this
          contradiction
      | cons symbol alike =>
          obtain ⟨rfl, rfl⟩ := List.cons.inj whole
          have others : ∀ symbol ∈ front, inside symbol = true :=
            fun symbol member => members symbol (List.mem_cons_of_mem _ member)
          obtain ⟨other, rfl, behind⟩ := induction others alike
          exact ⟨other, rfl, behind⟩

end Text.Alike

namespace Lexeme

/-- What a lexeme needs of the text behind it does not reach beyond a lead. -/
theorem Fits.alike {lexeme : Lexeme} {rest other : Text} (fits : lexeme.Fits rest)
    (alike : Text.Alike rest other) : lexeme.Fits other := by
  have last {closed : Bool} (last : closed = false → rest = []) (isOpen : closed = false) :
      other = [] := by
    obtain rfl := last isOpen
    exact alike.eq_nil
  cases lexeme with
  | character symbol =>
      refine ⟨fits.unquoted, ?_⟩
      intro lead same
      obtain ⟨unopened, stops⟩ := fits.unopened lead same
      exact ⟨alike.body?_eq_none unopened, alike.stops lead.outside_begins stops⟩
  | literal content closed => exact ⟨fits.1, last fits.2⟩
  | overflow digits =>
      obtain ⟨numeral, tooLarge, after, rfl, stops⟩ := fits
      obtain ⟨other, rfl, behind⟩ := alike.run Lead.outside_isDigit numeral.isDigit
      exact ⟨numeral, tooLarge, other, rfl, behind.stops Lead.outside_isDigit stops⟩
  | positional digits =>
      exact ⟨fits.1, fits.2.1, alike.stops Lead.outside_isDigit fits.2.2⟩
  | named name => exact ⟨fits.1, alike.stops Lead.outside_continuesName fits.2⟩
  | expression lead body closed => exact ⟨fits.1, last fits.2⟩

end Lexeme

namespace Binding

/-- The placeholder of a binding can be written over that of another: an expression over any, any
other over one of its kind. -/
def Replaces (new old : Binding) : Prop :=
  new.isExpression = true ∨ new.kind = old.kind

theorem fits_of_replaces {policy : TailPolicy} {lexeme : Lexeme} {rest other : Text}
    {new old : Binding} (fits : lexeme.Fits rest) (piece_eq : lexeme.piece policy = .site old)
    (replaces : new.Replaces old) (wellFormed : new.WellFormed) (alike : Text.Alike rest other) :
    new.lexeme.Fits other := by
  cases new with
  | expression lead body => exact ⟨wellFormed, by simp⟩
  | positional index =>
      have numeral := Decimal.isNumeral_write index.toNat
      obtain ⟨digits, rfl, rfl⟩ | ⟨name, rfl, rfl⟩ | ⟨lead, body, closed, rfl, rfl⟩ :=
        Lexeme.piece_eq_site piece_eq
      · refine ⟨numeral, ?_, alike.stops Lead.outside_isDigit fits.2.2⟩
        rw [Decimal.value_write]
        exact wellFormed
      · simp [Replaces, isExpression, kind] at replaces
      · simp [Replaces, isExpression, kind] at replaces
  | named name =>
      obtain ⟨digits, rfl, rfl⟩ | ⟨name, rfl, rfl⟩ | ⟨lead, body, closed, rfl, rfl⟩ :=
        Lexeme.piece_eq_site piece_eq
      · simp [Replaces, isExpression, kind] at replaces
      · exact ⟨wellFormed, alike.stops Lead.outside_continuesName fits.2⟩
      · simp [Replaces, isExpression, kind] at replaces

end Binding
namespace Template

/-- Lexemes with the placeholders among them written over, in turn, by those of bindings. -/
inductive Refilled (policy : TailPolicy) : List Lexeme → List Binding → List Lexeme → Prop
  /-- No lexemes and no bindings. -/
  | nil : Refilled policy [] [] []
  /-- A lexeme that is no placeholder stays. -/
  | copied {lexeme : Lexeme} {text : Text} {old new : List Lexeme} {bindings : List Binding}
      (piece_eq : lexeme.piece policy = .copied text) (others : Refilled policy old bindings new) :
      Refilled policy (lexeme :: old) bindings (lexeme :: new)
  /-- A placeholder is written over. -/
  | site {lexeme : Lexeme} {before binding : Binding} {old new : List Lexeme}
      {bindings : List Binding} (piece_eq : lexeme.piece policy = .site before)
      (replaces : binding.Replaces before) (wellFormed : binding.WellFormed)
      (others : Refilled policy old bindings new) :
      Refilled policy (lexeme :: old) (binding :: bindings) (binding.lexeme :: new)

theorem exists_refilled {policy : TailPolicy} (lexemes : List Lexeme) {bindings : List Binding}
    (wellFormed : ∀ binding ∈ bindings, binding.WellFormed)
    (replaces : List.Forall₂ Binding.Replaces bindings
      ((lexemes.map (Lexeme.piece policy)).filterMap Piece.binding?)) :
    ∃ new, Refilled policy lexemes bindings new := by
  induction lexemes generalizing bindings with
  | nil =>
      obtain rfl := List.forall₂_nil_right_iff.mp replaces
      exact ⟨[], .nil⟩
  | cons lexeme lexemes induction =>
      cases piece_eq : lexeme.piece policy with
      | copied text =>
          rw [List.map_cons, piece_eq, List.filterMap_cons, Piece.binding?] at replaces
          obtain ⟨new, others⟩ := induction wellFormed replaces
          exact ⟨lexeme :: new, .copied piece_eq others⟩
      | site before =>
          rw [List.map_cons, piece_eq, List.filterMap_cons, Piece.binding?,
            List.forall₂_cons_right_iff] at replaces
          obtain ⟨binding, bindings, first, replaces, rfl⟩ := replaces
          obtain ⟨new, others⟩ := induction
            (fun binding member => wellFormed binding (List.mem_cons_of_mem _ member)) replaces
          exact ⟨binding.lexeme :: new,
            .site piece_eq first (wellFormed binding List.mem_cons_self) others⟩

namespace Refilled

variable {policy : TailPolicy} {old new : List Lexeme} {bindings : List Binding}

theorem alike (refilled : Refilled policy old bindings new) :
    Text.Alike (old.flatMap Lexeme.source) (new.flatMap Lexeme.source) := by
  induction refilled with
  | nil => exact .nil
  | @copied lexeme _ _ _ _ _ _ induction => exact induction.append lexeme.source
  | @site lexeme before binding old new _ piece_eq replaces wellFormed others induction =>
      obtain ⟨lead, tail, source_eq⟩ := Lexeme.exists_source_of_piece_eq_site piece_eq
      obtain ⟨other, rest, surface_eq⟩ :=
        Lexeme.exists_source_of_piece_eq_site (binding.piece_lexeme policy)
      rw [List.flatMap_cons, List.flatMap_cons, source_eq, surface_eq]
      exact .lead lead other _ _

theorem fit (refilled : Refilled policy old bindings new) (fit : Fit old []) : Fit new [] := by
  induction refilled with
  | nil => trivial
  | copied piece_eq others induction =>
      refine ⟨?_, induction fit.2⟩
      have fits := fit.1
      rw [List.append_nil] at fits ⊢
      exact fits.alike others.alike
  | site piece_eq replaces wellFormed others induction =>
      refine ⟨?_, induction fit.2⟩
      have fits := fit.1
      rw [List.append_nil] at fits ⊢
      exact Binding.fits_of_replaces fits piece_eq replaces wellFormed others.alike

/-- The refilled lexemes are what rendering writes. -/
theorem weave_eq (refilled : Refilled policy old bindings new) :
    Query.weave (Query.copiedStretches (old.map (Lexeme.piece policy)))
        (bindings.map Binding.surface) = new.flatMap Lexeme.source := by
  induction refilled with
  | nil => rfl
  | copied piece_eq others induction =>
      rw [List.map_cons, piece_eq, Query.weave_copied, induction, Lexeme.piece_eq_copied piece_eq,
        List.flatMap_cons]
  | site piece_eq replaces wellFormed others induction =>
      rw [List.map_cons, piece_eq, List.map_cons, Query.weave_site, induction, List.flatMap_cons,
        Binding.source_lexeme]

/-- Of the query, refilling changes the bindings alone. -/
theorem ofPieces_eq (refilled : Refilled policy old bindings new) :
    Query.ofPieces (new.map (Lexeme.piece policy)) =
      { Query.ofPieces (old.map (Lexeme.piece policy)) with bindings } := by
  induction refilled with
  | nil => rfl
  | @copied _ text old _ _ piece_eq others induction =>
      rw [List.map_cons, List.map_cons, piece_eq, Query.ofPieces_cons, induction,
        Query.ofPieces_cons (.copied text) (old.map (Lexeme.piece policy))]
      rfl
  | @site _ before _ old _ _ piece_eq replaces wellFormed others induction =>
      rw [List.map_cons, List.map_cons, piece_eq, Binding.piece_lexeme, Query.ofPieces_cons,
        induction, Query.ofPieces_cons (.site before) (old.map (Lexeme.piece policy))]
      rfl

end Refilled
end Template

namespace Query

/-- Parsing the text between whose copied parts other placeholders stand. -/
theorem parse_weave {policy : TailPolicy} {template : Text} {bindings : List Binding}
    (wellFormed : ∀ binding ∈ bindings, binding.WellFormed)
    (replaces : List.Forall₂ Binding.Replaces bindings (parse policy template).bindings) :
    parse policy
        (weave (copiedStretches (Template.pieces policy template))
          (bindings.map Binding.surface)) =
      { parse policy template with bindings } := by
  obtain ⟨new, refilled⟩ := Template.exists_refilled _ wellFormed replaces
  have fit := refilled.fit (Template.fit_lexemes template)
  rw [Template.pieces, refilled.weave_eq, parse, Template.pieces, Template.lexemes_of_fit fit,
    refilled.ofPieces_eq]
  rfl

/-- Rendering the markers of a query as placeholders that can be written over its own, and parsing
again, changes the bindings alone; with its own placeholders nothing changes. -/
theorem parse_rendered (policy : TailPolicy) (template : Text) :
    (∀ bindings : List Binding, (∀ binding ∈ bindings, binding.WellFormed) →
      List.Forall₂ Binding.Replaces bindings (parse policy template).bindings →
        ∃ rendered,
          (parse policy template).replaceMarkers (inTurn (bindings.map Binding.surface)) () =
              some (rendered, ()) ∧
            parse policy rendered = { parse policy template with bindings }) ∧
      ∃ rendered, (parse policy template).render .surface = some rendered ∧
        parse policy rendered = parse policy template := by
  have rendering {σ : Type} (replacement : Replacement σ) (state : σ) :
      (parse policy template).replaceMarkers replacement state =
        some (weave (copiedStretches (Template.pieces policy template))
          (replacements replacement 0 (parse policy template).bindings state).1,
          (replacements replacement 0 (parse policy template).bindings state).2) :=
    replaceMarkers_ofPieces replacement state _
  refine ⟨?_, ?_⟩
  · intro bindings wellFormed replaces
    have length_eq : (bindings.map Binding.surface).length =
        (parse policy template).bindings.length := by
      rw [List.length_map, replaces.length_eq]
    have inserts := replacements_inTurn [] _ _ length_eq
    rw [List.nil_append, List.length_nil] at inserts
    rw [rendering, inserts]
    exact ⟨_, rfl, parse_weave wellFormed replaces⟩
  · have own : List.Forall₂ Binding.Replaces (parse policy template).bindings
        (parse policy template).bindings :=
      List.forall₂_same.mpr fun _ _ => .inr rfl
    rw [render, rendering, replacements_surface]
    exact ⟨_, rfl, parse_weave (fun _ => wellFormed_of_mem_parse) own⟩

/-- Behind a lead of its own, a name becomes an expression that holds a quote, and an expression
that is never closed becomes one of the other lead. -/
theorem parse_rendered_mixed :
    (∀ binding ∈ [Binding.expression .question ['\'', '?'], .expression .colon ['0']],
        binding.WellFormed) ∧
      List.Forall₂ Binding.Replaces [.expression .question ['\'', '?'], .expression .colon ['0']]
        (parse .absorb "é?:a'?0'?#\x7b:b".toList).bindings ∧
      ∃ rendered,
        (parse .absorb "é?:a'?0'?#\x7b:b".toList).replaceMarkers
            (inTurn ["?#\x7b'?\x7d".toList, ":#\x7b0\x7d".toList]) () = some (rendered, ()) ∧
          parse .absorb rendered =
            { parse .absorb "é?:a'?0'?#\x7b:b".toList with
              bindings := [.expression .question ['\'', '?'], .expression .colon ['0']] } := by
  have wellFormed : ∀ binding ∈ [Binding.expression .question ['\'', '?'],
      .expression .colon ['0']], binding.WellFormed := by decide
  have found : (parse .absorb "é?:a'?0'?#\x7b:b".toList).bindings =
      [.named ['a'], .expression .question [':', 'b']] := by decide +kernel
  have replaces : List.Forall₂ Binding.Replaces
      [.expression .question ['\'', '?'], .expression .colon ['0']]
      (parse .absorb "é?:a'?0'?#\x7b:b".toList).bindings := by
    rw [found]
    exact .cons (.inl rfl) (.cons (.inl rfl) .nil)
  exact ⟨wellFormed, replaces,
    (parse_rendered .absorb "é?:a'?0'?#\x7b:b".toList).1 _ wellFormed replaces⟩

end Query
end CqlText
