import CqlText.Proofs.OpenTail

/-!
# Templates in a row

What stands in front of a place that nothing carries on contributes its query and a shift of the
offsets behind it. The main statements are `parse_behind` and `parseStrict_behind`, for lexemes
without a fault, and from them `parse_across_seam`, for a template without a fault, and
`literal_content_inert`, for one with a literal behind it.
-/

namespace CqlText

namespace Fault

/-- The fault behind further text of a given width. -/
def shift (width : Nat) : Fault → Fault
  | openExpression offset => openExpression (width + offset)
  | openLiteral offset => openLiteral (width + offset)
  | indexTooLarge offset digits => indexTooLarge (width + offset) digits

@[simp] theorem offset_shift (width : Nat) (fault : Fault) :
    (fault.shift width).offset = width + fault.offset := by
  cases fault <;> rfl

theorem shift_shift (left right : Nat) (fault : Fault) :
    (fault.shift right).shift left = fault.shift (left + right) := by
  cases fault <;> simp [shift, Nat.add_assoc]

end Fault

namespace Lexeme

theorem fault?_add (width offset : Nat) (lexeme : Lexeme) :
    lexeme.fault? (width + offset) = (lexeme.fault? offset).map (Fault.shift width) := by
  rcases lexeme with _ | ⟨_, _ | _⟩ | _ | _ | _ | ⟨_, _, _ | _⟩ <;> rfl

end Lexeme

namespace Template

theorem firstFault?_add (width offset : Nat) (lexemes : List Lexeme) :
    firstFault? (width + offset) lexemes =
      (firstFault? offset lexemes).map (Fault.shift width) := by
  induction lexemes generalizing offset with
  | nil => rfl
  | cons lexeme lexemes induction =>
      rw [firstFault?, firstFault?, Lexeme.fault?_add]
      cases lexeme.fault? offset with
      | none => simp [Nat.add_assoc, induction]
      | some fault => rfl

section

variable {whole back : Text} {front : List Lexeme}
  (read : lexemes whole = front ++ lexemes back)
  (sound : ∀ lexeme ∈ front, lexeme.isSound = true)

include read sound

/-- Behind lexemes without a fault, a template has the fault that it has by itself. -/
theorem fault?_behind :
    fault? whole =
      (fault? back).map (Fault.shift (Text.byteLength (front.flatMap Lexeme.source))) := by
  have shifted := firstFault?_add (Text.byteLength (front.flatMap Lexeme.source)) 0 (lexemes back)
  rw [Nat.add_zero] at shifted
  rw [fault?, read, firstFault?_append, firstFault?_eq_none_iff.mpr sound, Option.none_or,
    Nat.zero_add, shifted, fault?]

end

end Template

namespace Query

/-- Behind lexemes without a fault, a template is accepted or refused as it is by itself. -/
theorem parseStrict_behind {whole back : Text} {front : List Lexeme}
    (read : Template.lexemes whole = front ++ Template.lexemes back)
    (sound : ∀ lexeme ∈ front, lexeme.isSound = true) (policy : TailPolicy) :
    parseStrict policy whole =
      match parseStrict policy back with
      | .ok query => .ok (ofPieces (front.map (Lexeme.piece policy)) ++ query)
      | .error fault => .error (fault.shift (Text.byteLength (front.flatMap Lexeme.source))) := by
  have fault_eq := Template.fault?_behind read sound
  cases found : Template.fault? back with
  | none =>
      rw [found, Option.map_none] at fault_eq
      rw [parseStrict_eq_ok_iff.mpr ⟨found, rfl⟩, parseStrict_eq_ok_iff]
      exact ⟨fault_eq, parse_behind read policy⟩
  | some fault =>
      rw [found, Option.map_some] at fault_eq
      rw [parseStrict_eq_error_iff.mpr found, parseStrict_eq_error_iff]
      exact fault_eq

/-- A template that is accepted has one query under both policies. -/
theorem parse_eq_of_accepted {earlier : TailPolicy} {template : Text} {query : Query}
    (accepted : parseStrict earlier template = .ok query) (policy : TailPolicy) :
    parse policy template = query := by
  rw [parseStrict_eq_of_policies earlier policy] at accepted
  exact (parseStrict_eq_ok_iff.mp accepted).2

theorem byteLength_literal (front content : Text) :
    Text.byteLength (front ++ '\'' :: content ++ ['\'']) =
      Text.byteLength content + (Text.byteLength front + 2) := by
  have quote_size : '\''.utf8Size = 1 := by decide
  simp only [Text.byteLength_append, Text.byteLength_cons, Text.byteLength_nil, quote_size]
  omega

section

variable {earlier : TailPolicy} {front content : Text} {query : Query}
  (accepted : parseStrict earlier front = .ok query)

include accepted

theorem ofPieces_literal (policy : TailPolicy) :
    ofPieces ((Template.lexemes front ++ [Lexeme.literal content true]).map (Lexeme.piece policy)) =
      query ++ ofPieces [.copied ('\'' :: content ++ ['\''])] := by
  rw [List.map_append, ofPieces_append, ← parse_eq_of_accepted accepted policy]
  rfl

variable (free : '\'' ∉ content) (back : Text)

include free

theorem lexemes_literal :
    Template.lexemes (front ++ '\'' :: content ++ '\'' :: back) =
      (Template.lexemes front ++ [.literal content true]) ++ Template.lexemes back := by
  obtain ⟨sound, _⟩ := parseStrict_eq_ok_iff.mp accepted
  have seam : Text.Seam ('\'' :: (content ++ '\'' :: back)) := Text.seam_cons.mpr (by decide)
  have fit : Template.Fit [.literal content true] back := ⟨⟨free, by simp⟩, trivial⟩
  have read := Template.lexemes_append fit
  have whole : [Lexeme.literal content true].flatMap Lexeme.source ++ back =
      '\'' :: (content ++ '\'' :: back) := by
    simp [Lexeme.source]
  rw [whole] at read
  rw [List.append_assoc, List.cons_append, Template.lexemes_join sound seam, read,
    List.append_assoc]

/-- Behind a template without a fault and a literal, any other is parsed by itself. -/
theorem parse_literal (policy : TailPolicy) :
    parse policy (front ++ '\'' :: content ++ '\'' :: back) =
      query ++ ofPieces [.copied ('\'' :: content ++ ['\''])] ++ parse policy back := by
  rw [parse_behind (lexemes_literal accepted free back), ofPieces_literal accepted]

/-- Behind a template without a fault and a literal, any other is accepted or refused as it is by
itself. -/
theorem parseStrict_literal (policy : TailPolicy) :
    parseStrict policy (front ++ '\'' :: content ++ '\'' :: back) =
      match parseStrict policy back with
      | .ok rest => .ok (query ++ ofPieces [.copied ('\'' :: content ++ ['\''])] ++ rest)
      | .error fault =>
          .error (fault.shift (Text.byteLength (front ++ '\'' :: content ++ ['\'']))) := by
  obtain ⟨sound, _⟩ := parseStrict_eq_ok_iff.mp accepted
  have bothSound : ∀ lexeme ∈ Template.lexemes front ++ [.literal content true],
      lexeme.isSound = true := by
    rw [List.forall_mem_append]
    exact ⟨Template.fault?_eq_none_iff.mp sound, by simp [Lexeme.isSound]⟩
  have source_eq : (Template.lexemes front ++ [Lexeme.literal content true]).flatMap Lexeme.source =
      front ++ '\'' :: content ++ ['\''] := by
    rw [List.flatMap_append, Template.lexemes_source]
    simp [Lexeme.source]
  rw [parseStrict_behind (lexemes_literal accepted free back) bothSound, source_eq,
    ofPieces_literal accepted]

end

/-- Behind a template without a fault, one that does not carry it on is parsed by itself. -/
theorem parse_across_seam {earlier : TailPolicy} {front back : Text} {query : Query}
    (accepted : parseStrict earlier front = .ok query) (seam : back.Seam) (policy : TailPolicy) :
    ((parse policy (front ++ back)).text = query.text ++ (parse policy back).text ∧
        (parse policy (front ++ back)).bindings =
          query.bindings ++ (parse policy back).bindings ∧
        (parse policy (front ++ back)).sites =
          query.sites ++ (parse policy back).sites.map (Text.byteLength query.text + ·)) ∧
      (∀ whole, parseStrict policy (front ++ back) = .ok whole ↔
        ∃ rest, parseStrict policy back = .ok rest ∧ whole = query ++ rest) ∧
      (∀ fault, parseStrict policy (front ++ back) = .error fault ↔
        ∃ later, parseStrict policy back = .error later ∧
          fault = later.shift (Text.byteLength front)) ∧
      ∀ bindings,
        (collect policy (collect policy bindings front).2 back).2 =
            bindings ++ query.bindings ++ (parse policy back).bindings ∧
          (collect policy bindings (front ++ back)).2 =
            bindings ++ query.bindings ++ (parse policy back).bindings ∧
          (collect policy bindings front).1 ++
              (collect policy (collect policy bindings front).2 back).1 =
            (collect policy bindings (front ++ back)).1 := by
  have front_eq := parse_eq_of_accepted accepted policy
  obtain ⟨frontSound, _⟩ := parseStrict_eq_ok_iff.mp accepted
  have parse_eq := parse_join policy frontSound seam
  have strict_eq := parseStrict_behind (Template.lexemes_join frontSound seam)
    (Template.fault?_eq_none_iff.mp frontSound) policy
  rw [Template.lexemes_source, show ofPieces ((Template.lexemes front).map (Lexeme.piece policy)) =
    parse policy front from rfl] at strict_eq
  rw [front_eq] at parse_eq strict_eq
  refine ⟨?_, ?_, ?_, ?_⟩
  · rw [parse_eq]
    exact ⟨rfl, rfl, rfl⟩
  · intro whole
    rw [strict_eq]
    cases parseStrict policy back with
    | ok rest => simp [eq_comm]
    | error fault => simp
  · intro fault
    rw [strict_eq]
    cases parseStrict policy back with
    | ok rest => simp
    | error later => simp [eq_comm]
  · intro bindings
    simp [collect, parse_eq, front_eq]

/-- A name in front of a literal that is never closed, and a named placeholder behind another. -/
theorem parse_across_seam_literal :
    parseStrict .absorb "é?07:a".toList =
        .ok ⟨"é?_param_??_param_?".toList, [.positional 7, .named ['a']], [2, 11]⟩ ∧
      Text.Seam ":b'é".toList ∧
      (parse .verbatim "é?07:a:b'é".toList).sites = [2, 11, 20] ∧
      parseStrict .verbatim "é?07:a:b'é".toList = .error (.openLiteral 9) := by
  have accepted : parseStrict .absorb "é?07:a".toList =
      .ok ⟨"é?_param_??_param_?".toList, [.positional 7, .named ['a']], [2, 11]⟩ :=
    parseStrict_eq_ok_iff.mpr (by decide +kernel)
  have seam : Text.Seam ":b'é".toList := by decide +kernel
  obtain ⟨⟨_, _, sites_eq⟩, _, refused, _⟩ := parse_across_seam accepted seam .verbatim
  refine ⟨accepted, seam, sites_eq.trans (by decide +kernel), ?_⟩
  exact (refused _).mpr
    ⟨.openLiteral 2, parseStrict_eq_error_iff.mpr (by decide +kernel), by decide +kernel⟩

/-- What stands in a literal behind a template without a fault changes nothing else. -/
theorem literal_content_inert {earlier : TailPolicy} {front : Text} {query : Query}
    (accepted : parseStrict earlier front = .ok query) (back : Text) (policy : TailPolicy) :
    (∀ content, '\'' ∉ content →
        (parse policy (front ++ '\'' :: content ++ '\'' :: back)).text =
            query.text ++ '\'' :: content ++ '\'' :: (parse policy back).text ∧
          (parse policy (front ++ '\'' :: content ++ '\'' :: back)).bindings =
            query.bindings ++ (parse policy back).bindings ∧
          (parse policy (front ++ '\'' :: content ++ '\'' :: back)).sites =
            query.sites ++ (parse policy back).sites.map
              (Text.byteLength (query.text ++ '\'' :: content ++ ['\'']) + ·)) ∧
      ∀ content other, '\'' ∉ content → '\'' ∉ other →
        let first := front ++ '\'' :: content ++ '\'' :: back
        let second := front ++ '\'' :: other ++ '\'' :: back
        (parse policy first).bindings = (parse policy second).bindings ∧
          (parseStrict policy first = .ok (parse policy first) ∧
              parseStrict policy second = .ok (parse policy second) ∨
            ∃ fault : Fault,
              parseStrict policy first = .error (fault.shift (Text.byteLength content)) ∧
                parseStrict policy second = .error (fault.shift (Text.byteLength other))) ∧
          ∃ before behind,
            (parse policy first).text = before ++ '\'' :: content ++ '\'' :: behind ∧
              (parse policy second).text = before ++ '\'' :: other ++ '\'' :: behind := by
  refine ⟨?_, ?_⟩
  · intro content free
    rw [parse_literal accepted free]
    refine ⟨?_, ?_, ?_⟩
    · simp [ofPieces, Piece.text]
    · simp [ofPieces, Piece.binding?]
    · simp [ofPieces, Piece.text, siteOffsets]
  · intro content other free otherFree
    refine ⟨?_, ?_, ?_⟩
    · rw [parse_literal accepted free, parse_literal accepted otherFree]
      rfl
    · rw [parseStrict_literal accepted free, parseStrict_literal accepted otherFree,
        parse_literal accepted free, parse_literal accepted otherFree]
      cases outcome : parseStrict policy back with
      | ok rest =>
          obtain ⟨_, rfl⟩ := parseStrict_eq_ok_iff.mp outcome
          exact .inl ⟨rfl, rfl⟩
      | error fault =>
          right
          refine ⟨fault.shift (Text.byteLength front + 2), ?_, ?_⟩
          · rw [Fault.shift_shift, ← byteLength_literal]
          · rw [Fault.shift_shift, ← byteLength_literal]
    · refine ⟨query.text, (parse policy back).text, ?_, ?_⟩
      · rw [parse_literal accepted free]
        simp [ofPieces, Piece.text]
      · rw [parse_literal accepted otherFree]
        simp [ofPieces, Piece.text]

/-- Placeholders and a brace in a literal between a named placeholder and an open expression. -/
theorem literal_content_inert_placeholders :
    parseStrict .absorb ":a".toList = .ok ⟨"?_param_?".toList, [.named ['a']], [0]⟩ ∧
      '\'' ∉ "?0\x7b:é".toList ∧ '\'' ∉ "?#\x7b".toList ∧
      (parse .verbatim ":a'?0\x7b:é'0?1?#\x7b'".toList).bindings =
        (parse .verbatim ":a'?#\x7b'0?1?#\x7b'".toList).bindings ∧
      (parse .verbatim ":a'?0\x7b:é'0?1?#\x7b'".toList).sites = [0, 18] ∧
      (parse .verbatim ":a'?#\x7b'0?1?#\x7b'".toList).sites = [0, 15] := by
  have accepted : parseStrict .absorb ":a".toList =
      .ok ⟨"?_param_?".toList, [.named ['a']], [0]⟩ :=
    parseStrict_eq_ok_iff.mpr (by decide +kernel)
  have free : '\'' ∉ "?0\x7b:é".toList := by decide +kernel
  have otherFree : '\'' ∉ "?#\x7b".toList := by decide +kernel
  obtain ⟨single, pair⟩ := literal_content_inert accepted "0?1?#\x7b'".toList .verbatim
  exact ⟨accepted, free, otherFree, (pair _ _ free otherFree).1,
    (single _ free).2.2.trans (by decide +kernel),
    (single _ otherFree).2.2.trans (by decide +kernel)⟩

end Query
end CqlText
