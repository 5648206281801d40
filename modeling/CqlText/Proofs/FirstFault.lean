import CqlText.Proofs.Seam
import CqlText.Proofs.Slice

/-!
# The first fault of a template

Strict parsing refuses a template because of a malformed construct behind a part that it accepts.
The main statements are `exists_faultBehind`, by which the fault reported is such a construct, and
`FaultBehind.parseStrict_eq`, by which such a construct is the fault reported.
-/

namespace CqlText

namespace Fault

/-- The malformed construct that a fault names stands at the start of a text. -/
def Starts : Fault → Text → Prop
  | openExpression _, text =>
      (∃ lead body, text = Lead.symbol lead :: '#' :: '{' :: body) ∧ '}' ∉ text
  | openLiteral _, text => ∃ content, text = '\'' :: content ∧ '\'' ∉ content
  | indexTooLarge _ digits, text =>
      Decimal.IsNumeral digits ∧ UInt64.size ≤ Decimal.value digits ∧
        ∃ after, text = '?' :: (digits ++ after) ∧ Text.Stops Char.isDigit after

theorem Starts.seam {fault : Fault} {text : Text} (starts : fault.Starts text) : text.Seam := by
  cases fault with
  | openExpression offset =>
      obtain ⟨⟨lead, body, rfl⟩, _⟩ := starts
      exact lead.seam _
  | openLiteral offset =>
      obtain ⟨content, rfl, _⟩ := starts
      exact Text.seam_cons.mpr (by decide)
  | indexTooLarge offset digits =>
      obtain ⟨_, _, after, rfl, _⟩ := starts
      exact Lead.question.seam _

/-- A malformed construct is read as a lexeme with the fault that names it. -/
theorem Starts.exists_lexeme {fault : Fault} {text : Text} (starts : fault.Starts text) :
    ∃ (lexeme : Lexeme) (rest : Text), text = lexeme.source ++ rest ∧ lexeme.Fits rest ∧
      lexeme.fault? fault.offset = some fault := by
  cases fault with
  | openExpression offset =>
      obtain ⟨⟨lead, body, rfl⟩, free⟩ := starts
      have bodyFree : '}' ∉ body := by
        intro member
        exact free (by simp [member])
      exact ⟨.expression lead body false, [], by simp [Lexeme.source], ⟨bodyFree, by simp⟩, rfl⟩
  | openLiteral offset =>
      obtain ⟨content, rfl, free⟩ := starts
      exact ⟨.literal content false, [], by simp [Lexeme.source], ⟨free, by simp⟩, rfl⟩
  | indexTooLarge offset digits =>
      obtain ⟨numeral, tooLarge, after, rfl, stops⟩ := starts
      exact ⟨.overflow digits, digits ++ after, rfl, ⟨numeral, tooLarge, after, rfl, stops⟩, rfl⟩

end Fault

namespace Lexeme

theorem offset_of_fault? {lexeme : Lexeme} {offset : Nat} {fault : Fault}
    (found : lexeme.fault? offset = some fault) : fault.offset = offset := by
  rcases lexeme with _ | ⟨_, _ | _⟩ | _ | _ | _ | ⟨_, _, _ | _⟩ <;>
    simp [fault?] at found <;> subst found <;> rfl

/-- The lexeme of a fault is the construct that the fault names. -/
theorem starts_of_fault? {lexeme : Lexeme} {rest : Text} {offset : Nat} {fault : Fault}
    (fits : lexeme.Fits rest) (found : lexeme.fault? offset = some fault) :
    fault.Starts (lexeme.source ++ rest) := by
  cases lexeme with
  | literal content closed =>
      cases closed with
      | true => simp [fault?] at found
      | false =>
          obtain rfl : Fault.openLiteral offset = fault := by simpa [fault?] using found
          obtain rfl := fits.2 rfl
          exact ⟨content, by simp [source], fits.1⟩
  | overflow digits =>
      obtain rfl : Fault.indexTooLarge offset digits = fault := by simpa [fault?] using found
      obtain ⟨numeral, tooLarge, after, rfl, stops⟩ := fits
      exact ⟨numeral, tooLarge, after, rfl, stops⟩
  | expression lead body closed =>
      cases closed with
      | true => simp [fault?] at found
      | false =>
          obtain rfl : Fault.openExpression offset = fault := by simpa [fault?] using found
          obtain rfl := fits.2 rfl
          refine ⟨⟨lead, body, by simp [source]⟩, ?_⟩
          have bodyFree := fits.1
          cases lead <;> simpa [source, Lead.symbol] using bodyFree
  | _ => simp [fault?] at found

end Lexeme

namespace Query

/-- A template is accepted up to a malformed construct, which a fault names and places. -/
structure FaultBehind (policy : TailPolicy) (template front rest : Text) (fault : Fault) :
    Prop where
  /-- The template is cut in two. -/
  whole : template = front ++ rest
  /-- The cut is where the fault is reported. -/
  width : Text.byteLength front = fault.offset
  /-- The first part is accepted. -/
  accepted : ∃ query, parseStrict policy front = .ok query
  /-- The construct starts the second part. -/
  starts : fault.Starts rest

theorem parseStrict_isOk_iff {policy : TailPolicy} {template : Text} :
    (∃ query, parseStrict policy template = .ok query) ↔ Template.fault? template = none := by
  constructor
  · rintro ⟨query, accepted⟩
    exact (parseStrict_eq_ok_iff.mp accepted).1
  · intro sound
    exact ⟨_, parseStrict_eq_ok_iff.mpr ⟨sound, rfl⟩⟩

theorem exists_faultBehind {policy : TailPolicy} {template : Text} {fault : Fault}
    (refused : parseStrict policy template = .error fault) :
    ∃ front rest, FaultBehind policy template front rest fault := by
  obtain ⟨front, lexeme, back, whole, sound, found⟩ :=
    Template.exists_of_firstFault? (parseStrict_eq_error_iff.mp refused)
  have fit := Template.fit_lexemes template
  rw [whole, Template.fit_append] at fit
  have fits := fit.2.1
  rw [List.append_nil] at fits
  refine ⟨front.flatMap Lexeme.source, lexeme.source ++ back.flatMap Lexeme.source,
    ?_, ?_, ?_, ?_⟩
  · have sources := Template.lexemes_source template
    rw [whole, List.flatMap_append, List.flatMap_cons] at sources
    exact sources.symm
  · rw [Lexeme.offset_of_fault? found, Nat.zero_add]
  · rw [parseStrict_isOk_iff, Template.fault?_eq_none_iff, Template.lexemes_cut whole sound]
    exact sound
  · exact Lexeme.starts_of_fault? fits found

theorem FaultBehind.parseStrict_eq {policy : TailPolicy} {template front rest : Text}
    {fault : Fault} (behind : FaultBehind policy template front rest fault) :
    parseStrict policy template = .error fault := by
  obtain ⟨rfl, width, accepted, starts⟩ := behind
  have sound := parseStrict_isOk_iff.mp accepted
  obtain ⟨lexeme, after, rfl, fits, found⟩ := starts.exists_lexeme
  have fit : Template.Fit [lexeme] after := ⟨fits, trivial⟩
  have read := Template.lexemes_append fit
  rw [List.flatMap_singleton] at read
  have frontSound : Template.firstFault? 0 (Template.lexemes front) = none := sound
  rw [parseStrict_eq_error_iff, Template.fault?, Template.lexemes_join sound starts.seam, read,
    Template.firstFault?_append, frontSound, Template.lexemes_source, Nat.zero_add, width,
    List.singleton_append, Template.firstFault?, found]
  rfl

theorem FaultBehind.parse_eq {policy : TailPolicy} {template front rest : Text}
    {fault : Fault} (behind : FaultBehind policy template front rest fault) :
    parse policy template = parse policy front ++ parse policy rest := by
  obtain ⟨rfl, _, accepted, starts⟩ := behind
  exact parse_join policy (parseStrict_isOk_iff.mp accepted) starts.seam

/-- Strict parsing reports the malformed construct behind an accepted part, of which there is at
most one; lenient parsing gives first what it gives for that part; without such a construct both
agree. -/
theorem parseStrict_reports_first (policy : TailPolicy) (template : Text) :
    (∀ fault, parseStrict policy template = .error fault ↔
        ∃ front rest, FaultBehind policy template front rest fault) ∧
      (∀ front front' rest rest' fault fault',
        FaultBehind policy template front rest fault →
          FaultBehind policy template front' rest' fault' → front = front' ∧ fault = fault') ∧
      (∀ front rest fault, FaultBehind policy template front rest fault →
        (parse policy front).text <+: (parse policy template).text ∧
          (parse policy front).bindings <+: (parse policy template).bindings ∧
          (parse policy front).sites <+: (parse policy template).sites) ∧
      ((¬ ∃ front rest fault, FaultBehind policy template front rest fault) →
        parseStrict policy template = .ok (parse policy template)) := by
  refine ⟨?_, ?_, ?_, ?_⟩
  · intro fault
    constructor
    · exact exists_faultBehind
    · rintro ⟨front, rest, behind⟩
      exact behind.parseStrict_eq
  · intro front front' rest rest' fault fault' behind behind'
    have fault_eq : fault = fault' := by
      have both := behind.parseStrict_eq.symm.trans behind'.parseStrict_eq
      simpa using both
    refine ⟨?_, fault_eq⟩
    apply Text.eq_of_append_eq (behind.whole.symm.trans behind'.whole)
    rw [behind.width, behind'.width, fault_eq]
  · intro front rest fault behind
    rw [behind.parse_eq]
    exact ⟨List.prefix_append _ _, List.prefix_append _ _, List.prefix_append _ _⟩
  · intro faultless
    rw [parseStrict_eq_ok_iff]
    refine ⟨?_, rfl⟩
    cases found : Template.fault? template with
    | none => rfl
    | some fault =>
        have refused : parseStrict policy template = .error fault :=
          parseStrict_eq_error_iff.mpr found
        obtain ⟨front, rest, behind⟩ := exists_faultBehind refused
        exact absurd ⟨front, rest, fault, behind⟩ faultless

/-- An index that is too large, in front of a literal that is never closed. -/
theorem parseStrict_reports_first_index :
    FaultBehind .verbatim "é:a ?99999999999999999999x'b".toList "é:a ".toList
        "?99999999999999999999x'b".toList (.indexTooLarge 5 (List.replicate 20 '9')) ∧
      parseStrict .verbatim "é:a ?99999999999999999999x'b".toList =
        .error (.indexTooLarge 5 (List.replicate 20 '9')) ∧
      (parse .verbatim "é:a ".toList).sites <+:
        (parse .verbatim "é:a ?99999999999999999999x'b".toList).sites := by
  have behind : FaultBehind .verbatim "é:a ?99999999999999999999x'b".toList "é:a ".toList
      "?99999999999999999999x'b".toList (.indexTooLarge 5 (List.replicate 20 '9')) := by
    have numeral : Decimal.IsNumeral (List.replicate 20 '9') := by
      refine ⟨by decide, ?_⟩
      intro symbol member
      rw [List.eq_of_mem_replicate member]
      rfl
    exact ⟨by decide +kernel, by decide +kernel, parseStrict_isOk_iff.mpr (by decide +kernel),
      numeral, by decide +kernel, "x'b".toList, by decide +kernel, by decide +kernel⟩
  obtain ⟨reports, _, leads, _⟩ := parseStrict_reports_first .verbatim
    "é:a ?99999999999999999999x'b".toList
  exact ⟨behind, (reports _).mpr ⟨_, _, behind⟩, (leads _ _ _ behind).2.2⟩

end Query
end CqlText
