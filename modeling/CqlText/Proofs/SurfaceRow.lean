import CqlText.Proofs.Seam
import CqlText.Proofs.Substitution

/-!
# Placeholders in a row

Placeholders that follow one another directly do not run into each other, because a lead carries on
no lexeme. The main statements are `Template.lexemes_surfaces`, by which well-formed bindings in a
row are read one by one, and `Query.parse_surfaces_exact`, by which a list of bindings survives
writing and parsing exactly if all of them are well formed.
-/

namespace CqlText

namespace Binding

theorem exists_surface_eq (binding : Binding) :
    ∃ lead tail, binding.surface = Lead.symbol lead :: tail := by
  rw [← source_lexeme]
  exact Lexeme.exists_source_of_piece_eq_site (binding.piece_lexeme .standard)

/-- A row of placeholders carries on nothing that cannot go on with a lead. -/
theorem stops_surfaces {inside : Char → Bool} (outside : Lead.Outside inside)
    (bindings : List Binding) : Text.Stops inside (surfaces bindings) := by
  cases bindings with
  | nil => exact Text.stops_nil inside
  | cons binding bindings =>
      obtain ⟨lead, tail, surface_eq⟩ := binding.exists_surface_eq
      rw [surfaces, List.flatMap_cons, surface_eq]
      exact Text.stops_cons.mpr (outside lead)

/-- The placeholder of a well-formed binding can be read in front of others. -/
theorem fits_surfaces {binding : Binding} (wellFormed : binding.WellFormed)
    (bindings : List Binding) : binding.lexeme.Fits (surfaces bindings) := by
  cases binding with
  | positional index =>
      refine ⟨Decimal.isNumeral_write index.toNat, ?_, stops_surfaces Lead.outside_isDigit bindings⟩
      rw [Decimal.value_write]
      exact wellFormed
  | named name => exact ⟨wellFormed, stops_surfaces Lead.outside_continuesName bindings⟩
  | expression lead source => exact ⟨wellFormed, by simp⟩

theorem isSound_lexeme (binding : Binding) : binding.lexeme.isSound = true := by
  cases binding <;> rfl

theorem flatMap_source_lexeme (bindings : List Binding) :
    (bindings.map lexeme).flatMap Lexeme.source = surfaces bindings := by
  simp [List.flatMap_map, surfaces]

end Binding

namespace Template

theorem fit_surfaces {bindings : List Binding}
    (wellFormed : ∀ binding ∈ bindings, binding.WellFormed) :
    Fit (bindings.map Binding.lexeme) [] := by
  induction bindings with
  | nil => trivial
  | cons binding bindings induction =>
      rw [List.forall_mem_cons] at wellFormed
      refine ⟨?_, induction wellFormed.2⟩
      rw [List.append_nil, Binding.flatMap_source_lexeme]
      exact Binding.fits_surfaces wellFormed.1 bindings

/-- Well-formed bindings written in a row are read one by one. -/
theorem lexemes_surfaces {bindings : List Binding}
    (wellFormed : ∀ binding ∈ bindings, binding.WellFormed) :
    lexemes (Binding.surfaces bindings) = bindings.map Binding.lexeme := by
  rw [← Binding.flatMap_source_lexeme]
  exact lexemes_of_fit (fit_surfaces wellFormed)

theorem fault?_surfaces {bindings : List Binding}
    (wellFormed : ∀ binding ∈ bindings, binding.WellFormed) :
    fault? (Binding.surfaces bindings) = none := by
  rw [fault?_eq_none_iff, lexemes_surfaces wellFormed, List.forall_mem_map]
  exact fun binding _ => binding.isSound_lexeme

end Template

namespace Query

/-- Sites that follow one another directly are one marker apart. -/
theorem siteOffsets_sites (offset : Nat) (bindings : List Binding) :
    siteOffsets offset (bindings.map .site) =
      (List.range bindings.length).map fun ordinal => offset + 9 * ordinal := by
  induction bindings generalizing offset with
  | nil => rfl
  | cons binding bindings induction =>
      rw [List.map_cons, siteOffsets, induction, byteLength_marker, List.length_cons,
        List.range_succ_eq_map, List.map_cons, List.map_map]
      simp [Function.comp_def, Nat.mul_add, Nat.add_assoc, Nat.add_comm 9]

theorem ofPieces_sites (bindings : List Binding) :
    ofPieces (bindings.map .site) =
      ⟨(List.replicate bindings.length marker).flatten, bindings,
        (List.range bindings.length).map (9 * ·)⟩ := by
  ext1
  · have same : Piece.text ∘ Piece.site = fun _ => marker := rfl
    simp [ofPieces, List.flatMap_def, same]
  · simp [ofPieces, List.filterMap_map, Function.comp_def, Piece.binding?]
  · simp [ofPieces, siteOffsets_sites]

theorem parse_surfaces (policy : TailPolicy) {bindings : List Binding}
    (wellFormed : ∀ binding ∈ bindings, binding.WellFormed) :
    parse policy (Binding.surfaces bindings) =
      ⟨(List.replicate bindings.length marker).flatten, bindings,
        (List.range bindings.length).map (9 * ·)⟩ := by
  rw [parse, Template.pieces, Template.lexemes_surfaces wellFormed, List.map_map,
    show Lexeme.piece policy ∘ Binding.lexeme = .site from funext (Binding.piece_lexeme policy),
    ofPieces_sites]

/-- Bindings written in a row are found again exactly if all of them are well formed, and then the
query is a row of markers. -/
theorem parse_surfaces_exact (policy : TailPolicy) (bindings : List Binding) :
    ((parse policy (Binding.surfaces bindings)).bindings = bindings ↔
        ∀ binding ∈ bindings, binding.WellFormed) ∧
      ((∀ binding ∈ bindings, binding.WellFormed) →
        parse policy (Binding.surfaces bindings) =
            ⟨(List.replicate bindings.length marker).flatten, bindings,
              (List.range bindings.length).map (9 * ·)⟩ ∧
          parseStrict policy (Binding.surfaces bindings) =
            .ok (parse policy (Binding.surfaces bindings))) := by
  refine ⟨⟨?_, ?_⟩, ?_⟩
  · intro found binding member
    rw [← found] at member
    exact wellFormed_of_mem_parse member
  · intro wellFormed
    rw [parse_surfaces policy wellFormed]
  · intro wellFormed
    exact ⟨parse_surfaces policy wellFormed,
      parseStrict_eq_ok_iff.mpr ⟨Template.fault?_surfaces wellFormed, rfl⟩⟩

/-- The largest index in front of a name, and a quote in an expression in front of an empty one. -/
theorem parse_surfaces_exact_mixed :
    (∀ binding ∈ [Binding.positional 18446744073709551615, .named ['_', 'é', '0'],
        .expression .question ['\'', '?'], .expression .colon []], binding.WellFormed) ∧
      Binding.surfaces [.positional 18446744073709551615, .named ['_', 'é', '0'],
          .expression .question ['\'', '?'], .expression .colon []] =
        "?18446744073709551615:_é0?#\x7b'?\x7d:#\x7b\x7d".toList ∧
      parseStrict .verbatim "?18446744073709551615:_é0?#\x7b'?\x7d:#\x7b\x7d".toList =
        .ok ⟨"?_param_??_param_??_param_??_param_?".toList,
          [.positional 18446744073709551615, .named ['_', 'é', '0'],
            .expression .question ['\'', '?'], .expression .colon []], [0, 9, 18, 27]⟩ := by
  have wellFormed : ∀ binding ∈ [Binding.positional 18446744073709551615, .named ['_', 'é', '0'],
      .expression .question ['\'', '?'], .expression .colon []], binding.WellFormed := by
    decide +kernel
  have written : Binding.surfaces [.positional 18446744073709551615, .named ['_', 'é', '0'],
        .expression .question ['\'', '?'], .expression .colon []] =
      "?18446744073709551615:_é0?#\x7b'?\x7d:#\x7b\x7d".toList := by decide +kernel
  obtain ⟨parse_eq, accepted⟩ := (parse_surfaces_exact .verbatim _).2 wellFormed
  rw [parse_eq, written] at accepted
  exact ⟨wellFormed, written, accepted⟩

end Query
end CqlText
