import CqlText.Proofs.Seam
import CqlText.Proofs.Surface

/-!
# Templates restored from their queries

Written as placeholders, the bindings of a query give its template back, apart from leading zeros
and a brace that closes an open expression. The main statements are `Decimal.write_value`, by which
a numeral that is read and written loses its leading zeros only, and `Template.weave_surface`, by
which the copied parts and the placeholders make up the template.
-/

namespace CqlText

namespace Decimal

/-- A numeral without the zeros in front of its other digits. -/
def trimZeros (digits : Text) : Text :=
  match digits.dropWhile (· == '0') with
  | [] => ['0']
  | first :: others => first :: others

theorem exists_digitChar {symbol : Char} (digit : symbol.isDigit = true) :
    ∃ number < 10, symbol = Nat.digitChar number := by
  obtain ⟨low, high⟩ := Char.isDigit_iff_toNat.mp digit
  have low : 48 ≤ symbol.toNat := low
  have high : symbol.toNat ≤ 57 := high
  have small : symbol.toNat - 48 < 10 := by omega
  refine ⟨symbol.toNat - 48, small, ?_⟩
  rw [← Char.toNat_inj, Nat.toNat_digitChar_of_lt_ten small]
  omega

/-- Digits read behind a positive number are written behind it. -/
theorem write_ofDigitChars {number : Nat} (positive : 0 < number) {digits : Text}
    (isDigit : ∀ symbol ∈ digits, symbol.isDigit = true) :
    write (Nat.ofDigitChars 10 digits number) = write number ++ digits := by
  induction digits generalizing number with
  | nil => simp
  | cons symbol digits induction =>
      rw [List.forall_mem_cons] at isDigit
      obtain ⟨unit, small, rfl⟩ := exists_digitChar isDigit.1
      have appended : write number ++ write unit = write (10 * number + unit) :=
        Nat.toDigits_append_toDigits (by decide) positive small
      have written : write unit = [Nat.digitChar unit] := Nat.toDigits_of_lt_base small
      rw [Nat.ofDigitChars_cons_digitChar_of_lt_ten small, induction (by omega) isDigit.2,
        ← appended, written, List.append_assoc, List.singleton_append]

/-- The number that digits denote is written without their leading zeros. -/
theorem write_value {digits : Text} (isDigit : ∀ symbol ∈ digits, symbol.isDigit = true) :
    write (value digits) = trimZeros digits := by
  induction digits with
  | nil => rfl
  | cons symbol digits induction =>
      rw [List.forall_mem_cons] at isDigit
      obtain ⟨unit, small, rfl⟩ := exists_digitChar isDigit.1
      have value_eq : value (Nat.digitChar unit :: digits) = Nat.ofDigitChars 10 digits unit := by
        rw [value, Nat.ofDigitChars_cons_digitChar_of_lt_ten small, Nat.mul_zero, Nat.zero_add]
      rw [value_eq]
      by_cases zero : unit = 0
      · subst zero
        exact induction isDigit.2
      · have written : write unit = [Nat.digitChar unit] := Nat.toDigits_of_lt_base small
        have first : Nat.digitChar unit ≠ '0' := by
          rwa [ne_eq, Nat.digitChar_eq_zero]
        rw [write_ofDigitChars (Nat.pos_of_ne_zero zero) isDigit.2, written, trimZeros,
          List.dropWhile_cons_of_neg (by simpa using first), List.singleton_append]

/-- A numeral that starts with no zero but a lone one stays. -/
theorem trimZeros_of_head? {digits : Text} (some_digit : digits ≠ [])
    (first : digits.head? = some '0' → digits = ['0']) : trimZeros digits = digits := by
  obtain ⟨symbol, others, rfl⟩ := List.exists_cons_of_ne_nil some_digit
  by_cases zero : symbol = '0'
  · subst zero
    rw [first rfl]
    rfl
  · rw [trimZeros, List.dropWhile_cons_of_neg (by simpa using zero)]

end Decimal

namespace Lexeme

/-- The source of a lexeme, an index without its leading zeros. -/
def trimmed : Lexeme → Text
  | positional digits => '?' :: Decimal.trimZeros digits
  | lexeme => lexeme.source

/-- Whether a lexeme is an expression that is never closed. -/
def isOpenExpression : Lexeme → Bool
  | expression _ _ closed => !closed
  | _ => false

/-- The brace that closes a lexeme whose open end a policy takes for an expression. -/
def addedBrace (policy : TailPolicy) (lexeme : Lexeme) : Text :=
  if policy = .absorb ∧ lexeme.isOpenExpression = true then ['}'] else []

theorem addedBrace_of_not_open {policy : TailPolicy} {lexeme : Lexeme}
    (notOpen : lexeme.isOpenExpression = false) : lexeme.addedBrace policy = [] := by
  simp [addedBrace, notOpen]

theorem isSound_of_isOpenExpression {lexeme : Lexeme} (isOpen : lexeme.isOpenExpression = true) :
    lexeme.isSound = false := by
  cases lexeme with
  | expression lead body closed => simpa [isOpenExpression, isSound] using isOpen
  | _ => simp [isOpenExpression] at isOpen

theorem eq_nil_of_isOpenExpression {lexeme : Lexeme} {rest : Text} (fits : lexeme.Fits rest)
    (isOpen : lexeme.isOpenExpression = true) : rest = [] := by
  cases lexeme with
  | expression lead body closed => exact fits.2 (by simpa [isOpenExpression] using isOpen)
  | _ => simp [isOpenExpression] at isOpen

/-- What is copied is written as it stands in the template. -/
theorem text_of_copied {policy : TailPolicy} {lexeme : Lexeme} {text : Text}
    (piece_eq : lexeme.piece policy = .copied text) :
    text = lexeme.trimmed ++ lexeme.addedBrace policy := by
  obtain rfl := piece_eq_copied piece_eq
  rcases lexeme with _ | _ | _ | _ | _ | ⟨_, _, _ | _⟩ <;> cases policy <;>
    simp_all [piece, trimmed, addedBrace, isOpenExpression]

/-- A placeholder is written as it stands in the template, apart from leading zeros and a brace. -/
theorem surface_of_site {policy : TailPolicy} {lexeme : Lexeme} {rest : Text} {binding : Binding}
    (fits : lexeme.Fits rest) (piece_eq : lexeme.piece policy = .site binding) :
    binding.surface = lexeme.trimmed ++ lexeme.addedBrace policy := by
  obtain ⟨digits, rfl, rfl⟩ | ⟨name, rfl, rfl⟩ | ⟨lead, body, closed, rfl, rfl⟩ :=
    piece_eq_site piece_eq
  · have index_eq : (UInt64.ofNat (Decimal.value digits)).toNat = Decimal.value digits := by
      rw [UInt64.toNat_ofNat', Nat.mod_eq_of_lt fits.2.1]
    rw [addedBrace_of_not_open rfl, List.append_nil, Binding.surface, index_eq,
      Decimal.write_value fits.1.isDigit, trimmed]
  · rw [addedBrace_of_not_open rfl, List.append_nil]
    rfl
  · cases closed with
    | true => simp [addedBrace_of_not_open, isOpenExpression, Binding.surface, trimmed, source]
    | false =>
        cases policy with
        | absorb => simp [addedBrace, isOpenExpression, Binding.surface, trimmed, source]
        | verbatim => simp [piece] at piece_eq

end Lexeme

namespace Template

/-- What is copied and the placeholders of the bindings, one after another, are the lexemes. -/
theorem weave_surface {policy : TailPolicy} {lexemes : List Lexeme} {rest : Text}
    (fit : Fit lexemes rest) :
    Query.weave (Query.copiedStretches (lexemes.map (Lexeme.piece policy)))
        (((lexemes.map (Lexeme.piece policy)).filterMap Piece.binding?).map Binding.surface) =
      lexemes.flatMap fun lexeme => lexeme.trimmed ++ lexeme.addedBrace policy := by
  induction lexemes with
  | nil => rfl
  | cons lexeme lexemes induction =>
      rw [List.map_cons, List.flatMap_cons, ← induction fit.2]
      cases piece_eq : lexeme.piece policy with
      | copied text =>
          rw [List.filterMap_cons, Piece.binding?, Query.weave_copied,
            Lexeme.text_of_copied piece_eq]
      | site binding =>
          rw [List.filterMap_cons, Piece.binding?, List.map_cons, Query.weave_site,
            Lexeme.surface_of_site fit.1 piece_eq]

/-- A brace is added at the end, if at all. -/
theorem flatMap_addedBrace {policy : TailPolicy} {lexemes : List Lexeme} (fit : Fit lexemes []) :
    (lexemes.flatMap fun lexeme => lexeme.trimmed ++ lexeme.addedBrace policy) =
      lexemes.flatMap Lexeme.trimmed ++
        if policy = .absorb ∧ ∃ lexeme ∈ lexemes, lexeme.isOpenExpression = true then ['}']
        else [] := by
  induction lexemes with
  | nil => simp
  | cons lexeme lexemes induction =>
      cases isOpen : lexeme.isOpenExpression with
      | false =>
          simp [induction fit.2, isOpen, Lexeme.addedBrace_of_not_open isOpen]
      | true =>
          have behind := Lexeme.eq_nil_of_isOpenExpression fit.1 isOpen
          rw [List.append_nil] at behind
          obtain rfl := eq_nil_of_flatMap_source behind
          simp [Lexeme.addedBrace, isOpen]

end Template

namespace Query

theorem render_surface (policy : TailPolicy) (template : Text) :
    (parse policy template).render .surface =
      some ((Template.lexemes template).flatMap Lexeme.trimmed ++
        if policy = .absorb ∧
          ∃ lexeme ∈ Template.lexemes template, lexeme.isOpenExpression = true then ['}']
        else []) := by
  have fit := Template.fit_lexemes template
  have rendered := replaceMarkers_ofPieces MarkerStyle.surface.replacement []
    (Template.pieces policy template)
  rw [replacements_surface] at rendered
  rw [render, parse, rendered, Option.map_some, ← Template.flatMap_addedBrace fit,
    ← Template.weave_surface fit]
  rfl

/-- Rendered with its own placeholders, the query of a template is the template with no zeros in
front of an index, and with a brace behind an expression that is never closed where that is taken
for one. -/
theorem render_restores (policy : TailPolicy) (template : Text) :
    (Template.lexemes template).flatMap Lexeme.source = template ∧
      (parse policy template).render .surface =
        some ((Template.lexemes template).flatMap Lexeme.trimmed ++
          if policy = .absorb ∧
            ∃ lexeme ∈ Template.lexemes template, lexeme.isOpenExpression = true then ['}']
          else []) ∧
      ∀ query, parseStrict policy template = .ok query →
        (∀ digits, Lexeme.positional digits ∈ Template.lexemes template →
          digits.head? = some '0' → digits = ['0']) →
        query.render .surface = some template := by
  refine ⟨Template.lexemes_source template, render_surface policy template, ?_⟩
  intro query accepted noZeros
  obtain ⟨sound, rfl⟩ := parseStrict_eq_ok_iff.mp accepted
  rw [Template.fault?_eq_none_iff] at sound
  have noneOpen : ¬ ∃ lexeme ∈ Template.lexemes template, lexeme.isOpenExpression = true := by
    rintro ⟨lexeme, member, isOpen⟩
    have refused := sound lexeme member
    rw [Lexeme.isSound_of_isOpenExpression isOpen] at refused
    contradiction
  have trimmed_eq : ∀ lexeme ∈ Template.lexemes template, lexeme.trimmed = lexeme.source := by
    intro lexeme member
    cases lexeme with
    | positional digits =>
        obtain ⟨rest, fits⟩ := Template.fits_of_mem_lexemes member
        rw [Lexeme.trimmed, Decimal.trimZeros_of_head? fits.1.ne_nil (noZeros digits member),
          Lexeme.source]
    | _ => rfl
  rw [render_surface, if_neg (fun brace => noneOpen brace.2), List.append_nil,
    List.flatMap_def, List.map_congr_left trimmed_eq, ← List.flatMap_def, Template.lexemes_source]

/-- Zeros that go and a brace that comes, and a template that stays. -/
theorem render_restores_zeros :
    (parse .absorb "é?0070'?00'?#\x7b:b?00".toList).render .surface =
        some "é?70'?00'?#\x7b:b?00\x7d".toList ∧
      parseStrict .absorb "?0é?700:a'?00'?".toList = .ok (parse .absorb "?0é?700:a'?00'?".toList) ∧
      (∀ digits, Lexeme.positional digits ∈ Template.lexemes "?0é?700:a'?00'?".toList →
        digits.head? = some '0' → digits = ['0']) ∧
      (parse .absorb "?0é?700:a'?00'?".toList).render .surface = some "?0é?700:a'?00'?".toList := by
  have accepted : parseStrict .absorb "?0é?700:a'?00'?".toList =
      .ok (parse .absorb "?0é?700:a'?00'?".toList) :=
    parseStrict_eq_ok_iff.mpr ⟨by decide +kernel, rfl⟩
  have lexemes_eq : Template.lexemes "?0é?700:a'?00'?".toList =
      [.positional ['0'], .character 'é', .positional ['7', '0', '0'], .named ['a'],
        .literal ['?', '0', '0'] true, .character '?'] := by decide +kernel
  have noZeros : ∀ digits, Lexeme.positional digits ∈ Template.lexemes "?0é?700:a'?00'?".toList →
      digits.head? = some '0' → digits = ['0'] := by
    rw [lexemes_eq]
    simp
  obtain ⟨_, rendered, _⟩ := render_restores .absorb "é?0070'?00'?#\x7b:b?00".toList
  refine ⟨?_, accepted, noZeros, (render_restores .absorb _).2.2 _ accepted noZeros⟩
  rw [rendered]
  decide +kernel

end Query
end CqlText
