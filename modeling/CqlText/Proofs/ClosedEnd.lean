import CqlText.Proofs.Composition
import CqlText.Proofs.FirstFault

/-!
# Open ends closed

Lenient parsing takes an expression or a literal that is never closed to end with its template. The
main statements are `parseStrict_close_expression` and `parseStrict_close_literal`, by which strict
parsing gives the same once the closing character is written behind the template.
-/

namespace CqlText
namespace Query

section

variable {front : Text} {lexeme : Lexeme} (sound : Template.fault? front = none)
  (seam : lexeme.source.Seam) (fits : lexeme.Fits [])

include sound seam fits

theorem lexemes_append_source :
    Template.lexemes (front ++ lexeme.source) = Template.lexemes front ++ [lexeme] := by
  have fit : Template.Fit [lexeme] [] := ⟨fits, trivial⟩
  have alone := Template.lexemes_of_fit fit
  rw [List.flatMap_singleton] at alone
  rw [Template.lexemes_join sound seam, alone]

/-- A lexeme behind a template without a fault contributes its own piece. -/
theorem parse_append_source (policy : TailPolicy) :
    parse policy (front ++ lexeme.source) =
      parse policy front ++ ofPieces [lexeme.piece policy] := by
  rw [parse, Template.pieces, lexemes_append_source sound seam fits, List.map_append,
    ofPieces_append]
  rfl

theorem parseStrict_append_source (closed : lexeme.isSound = true) (policy : TailPolicy) :
    parseStrict policy (front ++ lexeme.source) =
      .ok (parse policy front ++ ofPieces [lexeme.piece policy]) := by
  refine parseStrict_eq_ok_iff.mpr ⟨?_, parse_append_source sound seam fits policy⟩
  rw [Template.fault?_eq_none_iff, lexemes_append_source sound seam fits, List.forall_mem_append]
  exact ⟨Template.fault?_eq_none_iff.mp sound, by simpa using closed⟩

end

variable {policy : TailPolicy} {template : Text} {offset : Nat}

/-- A template refused for an expression that is never closed is accepted with a brace behind it, as
what it is if the rest of it is taken for the expression. -/
theorem parseStrict_close_expression
    (refused : parseStrict policy template = .error (.openExpression offset)) :
    parseStrict policy (template ++ ['}']) = .ok (parse .absorb template) := by
  obtain ⟨front, rest, rfl, _, ⟨query, accepted⟩, starts⟩ := exists_faultBehind refused
  have sound := (parseStrict_eq_ok_iff.mp accepted).1
  obtain ⟨⟨lead, body, rfl⟩, free⟩ := starts
  have bodyFree : '}' ∉ body := fun member => free (by simp [member])
  have seam (closed : Bool) : (Lexeme.expression lead body closed).source.Seam := lead.seam _
  have fits (closed : Bool) : (Lexeme.expression lead body closed).Fits [] :=
    ⟨bodyFree, fun _ => rfl⟩
  -- With and without the brace, the template is the accepted front and one lexeme.
  have opened : front ++ lead.symbol :: '#' :: '{' :: body =
      front ++ (Lexeme.expression lead body false).source := by simp [Lexeme.source]
  have closed : front ++ lead.symbol :: '#' :: '{' :: body ++ ['}'] =
      front ++ (Lexeme.expression lead body true).source := by simp [Lexeme.source]
  rw [closed, opened, parseStrict_append_source sound (seam true) (fits true) rfl,
    parse_append_source sound (seam false) (fits false), parse_eq_of_accepted accepted policy,
    parse_eq_of_accepted accepted .absorb]
  rfl

/-- A template refused for a literal that is never closed is accepted with a quote behind it, which
stands at the end of its text and changes nothing else. -/
theorem parseStrict_close_literal
    (refused : parseStrict policy template = .error (.openLiteral offset)) :
    parseStrict policy (template ++ ['\'']) =
      .ok { parse policy template with text := (parse policy template).text ++ ['\''] } := by
  obtain ⟨front, rest, rfl, _, ⟨query, accepted⟩, starts⟩ := exists_faultBehind refused
  have sound := (parseStrict_eq_ok_iff.mp accepted).1
  obtain ⟨content, rfl, free⟩ := starts
  have seam (closed : Bool) : (Lexeme.literal content closed).source.Seam :=
    Text.seam_cons.mpr (by decide)
  have fits (closed : Bool) : (Lexeme.literal content closed).Fits [] := ⟨free, fun _ => rfl⟩
  have opened : front ++ '\'' :: content = front ++ (Lexeme.literal content false).source := by
    simp [Lexeme.source]
  have closed : front ++ '\'' :: content ++ ['\''] =
      front ++ (Lexeme.literal content true).source := by simp [Lexeme.source]
  rw [closed, opened, parseStrict_append_source sound (seam true) (fits true) rfl,
    parse_append_source sound (seam false) (fits false), Except.ok.injEq]
  have copied (closed : Bool) : ofPieces [(Lexeme.literal content closed).piece policy] =
      ⟨(Lexeme.literal content closed).source, [], []⟩ := ofPieces_copied _
  rw [copied, copied]
  ext1 <;> simp [Lexeme.source]

/-- Strict parsing of a template whose end is closed gives what lenient parsing gives if it takes
the open end of the template as closed. -/
theorem closed_end_accepted (policy : TailPolicy) (template : Text) :
    (∀ offset, parseStrict policy template = .error (.openExpression offset) →
        parseStrict policy (template ++ ['}']) = .ok (parse .absorb template)) ∧
      ∀ offset, parseStrict policy template = .error (.openLiteral offset) →
        parseStrict policy (template ++ ['\'']) =
          .ok { parse policy template with text := (parse policy template).text ++ ['\''] } :=
  ⟨fun _ => parseStrict_close_expression, fun _ => parseStrict_close_literal⟩

/-- An expression with a quote and a placeholder in it, copied by the policy, and a literal with
what opens an expression in it. -/
theorem closed_end_accepted_nested :
    parseStrict .verbatim "é:a'b'?#\x7b'é?0".toList = .error (.openExpression 7) ∧
      parseStrict .verbatim "é:a'b'?#\x7b'é?0\x7d".toList =
        .ok ⟨"é?_param_?'b'?_param_?".toList,
          [.named ['a'], .expression .question "'é?0".toList], [2, 14]⟩ ∧
      parseStrict .verbatim "é:a'?#\x7b:b".toList = .error (.openLiteral 4) ∧
      parseStrict .verbatim "é:a'?#\x7b:b'".toList =
        .ok ⟨"é?_param_?'?#\x7b:b'".toList, [.named ['a']], [2]⟩ := by
  have openExpression : parseStrict .verbatim "é:a'b'?#\x7b'é?0".toList =
      .error (.openExpression 7) := parseStrict_eq_error_iff.mpr (by decide +kernel)
  have openLiteral : parseStrict .verbatim "é:a'?#\x7b:b".toList = .error (.openLiteral 4) :=
    parseStrict_eq_error_iff.mpr (by decide +kernel)
  refine ⟨openExpression, ?_, openLiteral, ?_⟩
  · refine ((closed_end_accepted _ _).1 _ openExpression).trans (congrArg Except.ok ?_)
    decide +kernel
  · refine ((closed_end_accepted _ _).2 _ openLiteral).trans (congrArg Except.ok ?_)
    decide +kernel

end Query
end CqlText
