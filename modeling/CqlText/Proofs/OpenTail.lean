import CqlText.Proofs.Bytes
import CqlText.Proofs.Restoration
import CqlText.Proofs.Substitution

/-!
# Where the policies part

A policy decides about an expression that is never closed and about nothing else. Such an expression
is the last lexeme of its template, and what stands before it is read as if it stood alone, because
no lexeme reaches beyond a lead. The main statements are `Template.exists_open_tail`, which cuts a
template in front of its open expression, and `Query.policies_part_at_open_tail`.
-/

namespace CqlText

namespace Lexeme

/-- A lexeme fits also if the text behind it is cut in front of a lead. -/
theorem Fits.cut_lead {lexeme : Lexeme} {front back : Text} {lead : Lead}
    (fits : lexeme.Fits (front ++ lead.symbol :: back)) : lexeme.Fits front := by
  cases sound : lexeme.isSound with
  | true => exact fits.cut sound
  | false =>
      cases lexeme with
      | literal content closed =>
          have last := fits.2 sound
          simp at last
      | overflow digits =>
          obtain ⟨numeral, tooLarge, after, whole, stops⟩ := fits
          obtain ⟨later, rfl, rfl⟩ | ⟨symbol, inner, rfl, back_eq⟩ :=
            Text.append_eq_append_cases whole.symm
          · exact ⟨numeral, tooLarge, later, rfl, Text.stops_of_append stops⟩
          · -- The cut would fall inside the digits, and the lead would be one of them.
            have digit := numeral.isDigit symbol (by simp)
            rw [← (List.cons.inj back_eq).1, Lead.outside_isDigit lead] at digit
            contradiction
      | expression other body closed =>
          have last := fits.2 sound
          simp at last
      | _ => simp [isSound] at sound

/-- A policy matters to open expressions only. -/
theorem piece_of_not_open {lexeme : Lexeme} (notOpen : lexeme.isOpenExpression = false)
    (policy other : TailPolicy) : lexeme.piece policy = lexeme.piece other := by
  cases lexeme with
  | expression lead body closed =>
      obtain rfl : closed = true := by simpa [isOpenExpression] using notOpen
      rfl
  | _ => rfl

theorem exists_of_isOpenExpression {lexeme : Lexeme} (isOpen : lexeme.isOpenExpression = true) :
    ∃ lead body, lexeme = expression lead body false := by
  cases lexeme with
  | expression lead body closed =>
      obtain rfl : closed = false := by simpa [isOpenExpression] using isOpen
      exact ⟨lead, body, rfl⟩
  | _ => simp [isOpenExpression] at isOpen

end Lexeme

namespace Template

theorem Fit.cut_lead {lexemes : List Lexeme} {lead : Lead} {back : Text}
    (fit : Fit lexemes (lead.symbol :: back)) : Fit lexemes [] := by
  induction lexemes with
  | nil => trivial
  | cons lexeme lexemes induction =>
      refine ⟨?_, induction fit.2⟩
      rw [List.append_nil]
      exact fit.1.cut_lead

/-- In front of further text no expression is open. -/
theorem not_open_of_fit {lexemes : List Lexeme} {rest : Text} (fit : Fit lexemes rest)
    (further : rest ≠ []) : ∀ lexeme ∈ lexemes, lexeme.isOpenExpression = false := by
  induction lexemes with
  | nil => simp
  | cons lexeme lexemes induction =>
      refine List.forall_mem_cons.mpr ⟨?_, induction fit.2⟩
      rw [Bool.eq_false_iff]
      intro isOpen
      have behind := Lexeme.eq_nil_of_isOpenExpression fit.1 isOpen
      exact further (List.append_eq_nil_iff.mp behind).2

/-- Reading a template comes upon an expression that is never closed. -/
def ReachesOpen (template : Text) : Prop :=
  ∃ lexeme ∈ lexemes template, lexeme.isOpenExpression = true

instance (template : Text) : Decidable (ReachesOpen template) :=
  inferInstanceAs (Decidable (∃ lexeme ∈ lexemes template, lexeme.isOpenExpression = true))

theorem not_reachesOpen_iff {template : Text} :
    ¬ ReachesOpen template ↔ ∀ lexeme ∈ lexemes template, lexeme.isOpenExpression = false := by
  simp [ReachesOpen]

/-- An open expression ends its template, and what stands before it is read as if it stood alone. -/
theorem exists_open_tail {template : Text} (reached : ReachesOpen template) :
    ∃ front lead body, template = front ++ Lead.symbol lead :: '#' :: '{' :: body ∧ '}' ∉ body ∧
      lexemes template = lexemes front ++ [.expression lead body false] ∧ ¬ ReachesOpen front := by
  obtain ⟨lexeme, member, isOpen⟩ := reached
  obtain ⟨before, after, whole⟩ := List.append_of_mem member
  obtain ⟨lead, body, rfl⟩ := Lexeme.exists_of_isOpenExpression isOpen
  have fit := fit_lexemes template
  rw [whole, fit_append] at fit
  obtain ⟨fitBefore, fits, _⟩ := fit
  rw [List.append_nil] at fits
  obtain rfl := eq_nil_of_flatMap_source (fits.2 rfl)
  have source_eq : [Lexeme.expression lead body false].flatMap Lexeme.source ++ [] =
      lead.symbol :: '#' :: '{' :: body := by
    simp [Lexeme.source]
  rw [source_eq] at fitBefore
  have read : lexemes (before.flatMap Lexeme.source) = before :=
    lexemes_of_fit fitBefore.cut_lead
  refine ⟨before.flatMap Lexeme.source, lead, body, ?_, fits.1, ?_, ?_⟩
  · rw [← source_eq, List.append_nil, ← List.flatMap_append, ← whole, lexemes_source]
  · rw [read, whole]
  · rw [not_reachesOpen_iff, read]
    exact not_open_of_fit fitBefore (by simp)

end Template

namespace Query

/-- Without an open expression, a template has one query under all policies. -/
theorem parse_of_not_reachesOpen {template : Text} (noneOpen : ¬ Template.ReachesOpen template)
    (policy other : TailPolicy) : parse policy template = parse other template := by
  rw [Template.not_reachesOpen_iff] at noneOpen
  have pieces_eq : Template.pieces policy template = Template.pieces other template :=
    List.map_congr_left fun lexeme member =>
      Lexeme.piece_of_not_open (noneOpen lexeme member) policy other
  rw [parse, parse, pieces_eq]

/-- Behind a front with one query under all policies, a template goes on with an expression that is
never closed: one policy copies it, the other makes it a binding. -/
structure PartsBehind (template front : Text) (query : Query) (lead : Lead) (body : Text) :
    Prop where
  /-- The expression is the rest of the template. -/
  whole : template = front ++ lead.symbol :: '#' :: '{' :: body
  /-- It is never closed. -/
  unclosed : '}' ∉ body
  /-- The front does not depend on the policy. -/
  shared : ∀ policy, parse policy front = query
  /-- The expression is copied. -/
  copied : parse .verbatim template =
    ⟨query.text ++ lead.symbol :: '#' :: '{' :: body, query.bindings, query.sites⟩
  /-- The expression becomes a binding. -/
  absorbed : parse .absorb template =
    ⟨query.text ++ marker, query.bindings ++ [.expression lead body],
      query.sites ++ [Text.byteLength query.text]⟩

theorem exists_partsBehind {template : Text} (reached : Template.ReachesOpen template) :
    ∃ front query lead body, PartsBehind template front query lead body := by
  obtain ⟨front, lead, body, whole, unclosed, read, noneOpen⟩ := Template.exists_open_tail reached
  have shared (policy : TailPolicy) : parse policy front = parse .verbatim front :=
    parse_of_not_reachesOpen noneOpen policy .verbatim
  have parse_eq (policy : TailPolicy) : parse policy template =
      parse .verbatim front ++ ofPieces [(Lexeme.expression lead body false).piece policy] := by
    rw [← shared policy, parse, Template.pieces, read, List.map_append, ofPieces_append]
    rfl
  refine ⟨front, parse .verbatim front, lead, body, whole, unclosed, shared, ?_, ?_⟩
  · have piece_eq : (Lexeme.expression lead body false).piece .verbatim =
        .copied (lead.symbol :: '#' :: '{' :: body) := by
      simp [Lexeme.piece, Lexeme.source]
    rw [parse_eq, piece_eq, ofPieces_copied]
    ext1 <;> simp
  · have piece_eq : (Lexeme.expression lead body false).piece .absorb =
        .site (.expression lead body) := rfl
    rw [parse_eq, piece_eq, ofPieces_site]
    ext1 <;> simp

theorem PartsBehind.parse_ne {template front : Text} {query : Query} {lead : Lead} {body : Text}
    (parts : PartsBehind template front query lead body) :
    parse .absorb template ≠ parse .verbatim template := by
  intro same
  have lengths := congrArg (fun query => query.bindings.length) same
  simp [parts.absorbed, parts.copied] at lengths

theorem parse_eq_iff_not_reachesOpen (template : Text) :
    parse .absorb template = parse .verbatim template ↔ ¬ Template.ReachesOpen template := by
  constructor
  · intro same reached
    obtain ⟨front, query, lead, body, parts⟩ := exists_partsBehind reached
    exact parts.parse_ne same
  · intro noneOpen
    exact parse_of_not_reachesOpen noneOpen .absorb .verbatim

theorem parseStrict_eq_of_policies (policy other : TailPolicy) (template : Text) :
    parseStrict policy template = parseStrict other template := by
  cases found : Template.fault? template with
  | some fault => rw [parseStrict_eq_error_iff.mpr found, parseStrict_eq_error_iff.mpr found]
  | none =>
      have noneOpen : ¬ Template.ReachesOpen template := by
        rintro ⟨lexeme, member, isOpen⟩
        have sound := Template.fault?_eq_none_iff.mp found lexeme member
        rw [Lexeme.isSound_of_isOpenExpression isOpen] at sound
        contradiction
      rw [parseStrict_eq_ok_iff.mpr ⟨found, rfl⟩, eq_comm, parseStrict_eq_ok_iff]
      exact ⟨found, parse_of_not_reachesOpen noneOpen other policy⟩

/-- Strict parsing is the same under both policies. Lenient parsing is the same too, or the template
ends with an expression that is never closed and the queries part there; which of the two is decided
by whether such an expression is read. -/
theorem policies_part_at_open_tail (template : Text) :
    parseStrict .absorb template = parseStrict .verbatim template ∧
      (parse .absorb template = parse .verbatim template ∨
        ∃ front query lead body, PartsBehind template front query lead body) ∧
      ((∃ front query lead body, PartsBehind template front query lead body) ↔
        Template.ReachesOpen template) ∧
      (parse .absorb template = parse .verbatim template ↔ ¬ Template.ReachesOpen template) := by
  have parts_iff : (∃ front query lead body, PartsBehind template front query lead body) ↔
      Template.ReachesOpen template := by
    refine ⟨?_, exists_partsBehind⟩
    rintro ⟨front, query, lead, body, parts⟩
    by_contra noneOpen
    exact parts.parse_ne ((parse_eq_iff_not_reachesOpen template).mpr noneOpen)
  refine ⟨parseStrict_eq_of_policies .absorb .verbatim template, ?_, parts_iff,
    parse_eq_iff_not_reachesOpen template⟩
  rw [parts_iff, parse_eq_iff_not_reachesOpen]
  exact (Classical.em _).symm

/-- An index that is too large, in front of a literal that holds what opens an expression, and behind
it an expression that is never closed. -/
theorem policies_part_at_open_tail_literal :
    parseStrict .verbatim "é?99999999999999999999'?#\x7b':a:#\x7b'?0".toList =
        .error (.indexTooLarge 2 (List.replicate 20 '9')) ∧
      parseStrict .absorb "é?99999999999999999999'?#\x7b':a:#\x7b'?0".toList =
        .error (.indexTooLarge 2 (List.replicate 20 '9')) ∧
      (∃ front query lead body,
        PartsBehind "é?99999999999999999999'?#\x7b':a:#\x7b'?0".toList front query lead body) ∧
      parse .absorb "é'?#\x7b':a".toList = parse .verbatim "é'?#\x7b':a".toList := by
  obtain ⟨strict_eq, _, parts_iff, _⟩ :=
    policies_part_at_open_tail "é?99999999999999999999'?#\x7b':a:#\x7b'?0".toList
  obtain ⟨_, _, _, same_iff⟩ := policies_part_at_open_tail "é'?#\x7b':a".toList
  have refused : parseStrict .verbatim "é?99999999999999999999'?#\x7b':a:#\x7b'?0".toList =
      .error (.indexTooLarge 2 (List.replicate 20 '9')) :=
    parseStrict_eq_error_iff.mpr (by decide +kernel)
  exact ⟨refused, strict_eq.trans refused, parts_iff.mpr (by decide +kernel),
    same_iff.mpr (by decide +kernel)⟩

end Query
end CqlText
