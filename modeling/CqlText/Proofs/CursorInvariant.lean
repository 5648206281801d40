import CqlText.Proofs.CursorRounds
import CqlText.Proofs.FirstFault
import Mathlib.Data.List.Forall2

/-!
# What holds in every round of a pass

Where a round starts, what the cursor has written agrees with what it has passed. The main
statements are `Invariant.round`, by which a round keeps this, and `Reached.exists_end`, by which
the rounds end at the end of the template.
-/

namespace CqlText

/-- A part of a text by its byte offsets. -/
structure Span where
  /-- Where the part starts. -/
  start : Nat
  /-- Where the part ends. -/
  stop : Nat
deriving DecidableEq

namespace Span

/-- Number of bytes. -/
def width (span : Span) : Nat :=
  span.stop - span.start

/-- Number of bytes of all parts. -/
def total (spans : List Span) : Nat :=
  spans.foldr (fun span width => span.width + width) 0

@[simp] theorem total_nil : total [] = 0 := rfl

@[simp] theorem total_cons (span : Span) (spans : List Span) :
    total (span :: spans) = span.width + total spans := rfl

@[simp] theorem total_append (front back : List Span) :
    total (front ++ back) = total front + total back := by
  induction front with
  | nil => simp
  | cons span front induction => simp [induction, Nat.add_assoc]

end Span

namespace Cursor

variable {policy : TailPolicy} {template front : Text} {spans : List Span} {cursor next : Cursor}

/-- The part of the template that a placeholder takes up, if a round passes one. -/
def spanned (cursor next : Cursor) : List Span :=
  if next.query.size = cursor.query.size then [] else [⟨cursor.position, next.position⟩]

/-- The cursors at which rounds start, each with the number of rounds before it and the parts of the
template that placeholders took up in these. -/
inductive Reached (policy : TailPolicy) (template : Text) : Nat → List Span → Cursor → Prop where
  /-- The first round starts at the start. -/
  | start : Reached policy template 0 [] initial
  /-- A round starts where the one before it ends. -/
  | round {rounds : Nat} {spans : List Span} {cursor next : Cursor}
      (reached : Reached policy template rounds spans cursor)
      (moved : cursor.round? policy template = some (.moved next)) :
      Reached policy template (rounds + 1) (spans ++ spanned cursor next) next

theorem spanned_of_copied {text : Text}
    (query_eq : next.query = cursor.query ++ Query.ofPieces [.copied text]) :
    spanned cursor next = [] := by
  rw [Query.append_copied] at query_eq
  exact if_pos (by rw [query_eq, Query.size, Query.size])

theorem spanned_of_site {binding : Binding}
    (query_eq : next.query = cursor.query ++ Query.ofPieces [.site binding]) :
    spanned cursor next = [⟨cursor.position, next.position⟩] := by
  rw [Query.append_site] at query_eq
  exact if_neg (by simp [query_eq, Query.size])

/-- What a step makes of the query: it copies what it passes, or it writes a marker for a lexeme. -/
theorem Moves.query_cases {symbol : Char} {tail : Text}
    (moves : Moves policy cursor symbol tail next) :
    (∃ text, next.query = cursor.query ++ Query.ofPieces [.copied text] ∧
        next.position = cursor.position + Text.byteLength text) ∨
      ∃ (lexeme : Lexeme) (binding : Binding) (rest : Text),
        next.query = cursor.query ++ Query.ofPieces [.site binding] ∧
        next.position = cursor.position + Text.byteLength lexeme.source ∧
        symbol :: tail = lexeme.source ++ rest ∧ lexeme.piece policy = .site binding := by
  cases moves with
  | passed =>
      have source_eq := Lexeme.read_source symbol tail
      cases piece_eq : (Lexeme.read symbol tail).1.piece policy with
      | copied text =>
          refine .inl ⟨text, by rw [pass, piece_eq], ?_⟩
          rw [pass, Lexeme.piece_eq_copied piece_eq]
      | site binding =>
          exact .inr ⟨_, binding, _, by rw [pass, piece_eq], rfl, source_eq.symm, piece_eq⟩
  | opened | closed | copied => exact .inl ⟨_, (Query.append_copied ..).symm, rfl⟩

/-- A step reports nothing but a fault at which it starts. -/
theorem Moves.reported {symbol : Char} {tail : Text}
    (moves : Moves policy cursor symbol tail next) {fault : Fault}
    (found : next.fault? = some fault) :
    cursor.fault? = some fault ∨ fault.offset = cursor.position := by
  cases moves with
  | passed =>
      obtain earlier | ⟨_, here⟩ := Option.or_eq_some_iff.mp found
      · exact .inl earlier
      · exact .inr (Lexeme.offset_of_fault? here)
  | opened | closed | copied => exact .inl found

/-- What a cursor has written and reported agrees with how far it is. -/
structure Balanced (spans : List Span) (cursor : Cursor) : Prop where
  /-- Each binding has its site. -/
  paired : cursor.query.bindings.length = cursor.query.sites.length
  /-- For each placeholder a marker of nine bytes is written, and everything else is copied. -/
  balance : Text.byteLength cursor.query.text + Span.total spans =
    cursor.position + 9 * cursor.query.bindings.length
  /-- Faults are behind the cursor. -/
  behind : ∀ fault, cursor.fault? = some fault → fault.offset < cursor.position

theorem Balanced.moves (balanced : Balanced spans cursor) {symbol : Char} {tail : Text}
    (moves : Moves policy cursor symbol tail next) :
    Balanced (spans ++ spanned cursor next) next := by
  have forward := moves.forward
  have balance := balanced.balance
  have behind : ∀ fault, next.fault? = some fault → fault.offset < next.position := by
    intro fault found
    obtain earlier | here := moves.reported found
    · exact Nat.lt_trans (balanced.behind fault earlier) forward
    · exact here ▸ forward
  obtain ⟨text, query_eq, position_eq⟩ | ⟨lexeme, binding, rest, query_eq, _⟩ := moves.query_cases
  · rw [spanned_of_copied query_eq, List.append_nil]
    rw [Query.append_copied] at query_eq
    refine ⟨by simpa [query_eq] using balanced.paired, ?_, behind⟩
    simp only [query_eq, Text.byteLength_append, position_eq]
    omega
  · rw [spanned_of_site query_eq]
    rw [Query.append_site] at query_eq
    refine ⟨by simpa [query_eq] using balanced.paired, ?_, behind⟩
    simp only [query_eq, Text.byteLength_append, Query.byteLength_marker, Span.total_append,
      Span.total_cons, Span.total_nil, Span.width, List.length_append, List.length_cons,
      List.length_nil]
    omega

/-- A part of the template is the placeholder of a binding. -/
def ReadFrom (policy : TailPolicy) (template : Text) (span : Span) (binding : Binding) : Prop :=
  ∃ lexeme : Lexeme, Text.slice? span.start span.stop template = some lexeme.source ∧
    lexeme.piece policy = .site binding

theorem readFrom_moves {symbol : Char} {tail : Text}
    (read : List.Forall₂ (ReadFrom policy (front ++ symbol :: tail)) spans cursor.query.bindings)
    (stands : Text.byteLength front = cursor.position)
    (moves : Moves policy cursor symbol tail next) :
    List.Forall₂ (ReadFrom policy (front ++ symbol :: tail)) (spans ++ spanned cursor next)
      next.query.bindings := by
  obtain ⟨text, query_eq, _⟩ | ⟨lexeme, binding, rest, query_eq, position_eq, whole, piece_eq⟩ :=
    moves.query_cases
  · rw [spanned_of_copied query_eq, List.append_nil, query_eq, Query.append_copied]
    exact read
  · rw [spanned_of_site query_eq, query_eq, Query.append_site]
    have slice : Text.slice? cursor.position next.position (front ++ symbol :: tail) =
        some lexeme.source :=
      Text.slice?_eq_some_iff.mpr ⟨front, rest, by simp [whole], stands,
        by rw [Text.byteLength_append, stands, position_eq]⟩
    exact List.rel_append read (.cons ⟨lexeme, slice, piece_eq⟩ .nil)

/-- An open literal goes from its quote to the cursor. -/
def InsideLiteral (template : Text) (cursor : Cursor) : Prop :=
  ∀ start, cursor.place = .literal start → start < cursor.position ∧
    ∃ content, Text.slice? start cursor.position template = some ('\'' :: content) ∧
      '\'' ∉ content

theorem InsideLiteral.moves {symbol : Char} {tail : Text}
    (inside : InsideLiteral (front ++ symbol :: tail) cursor)
    (stands : Text.byteLength front = cursor.position)
    (moves : Moves policy cursor symbol tail next) :
    InsideLiteral (front ++ symbol :: tail) next := by
  intro start place_eq
  cases moves with
  | passed outside => simp [pass, outside] at place_eq
  | closed => simp [copy] at place_eq
  | opened =>
      obtain rfl : cursor.position = start := by simpa [copy] using place_eq
      have width := Text.byteLength_pos (List.cons_ne_nil '\'' [])
      refine ⟨Nat.lt_add_of_pos_right width, [], ?_, List.not_mem_nil⟩
      exact Text.slice?_eq_some_iff.mpr ⟨front, tail, by simp, stands, by simp [copy, stands]⟩
  | copied within unquoted =>
      obtain ⟨behind, content, slice, free⟩ := inside start place_eq
      obtain ⟨before, back, whole, rfl, stop_eq⟩ := Text.slice?_eq_some_iff.mp slice
      -- The literal so far and what the cursor has passed end at the same place.
      obtain rfl := Text.eq_of_append_eq whole (stands.trans stop_eq.symm)
      refine ⟨Nat.lt_of_lt_of_le behind (Nat.le_add_right ..), content ++ [symbol], ?_, ?_⟩
      · refine Text.slice?_eq_some_iff.mpr ⟨before, tail, by simp, rfl, ?_⟩
        simp [copy, ← stands, Nat.add_assoc]
      · simpa [free] using Ne.symm unquoted

/-- What holds of the cursor at which a round starts. -/
structure Invariant (policy : TailPolicy) (template : Text) (spans : List Span)
    (cursor : Cursor) : Prop where
  /-- The cursor stands between two characters or at an end. -/
  boundary : template.IsBoundary cursor.position
  /-- The cursor is not beyond the end. -/
  within : cursor.position ≤ Text.byteLength template
  /-- What is written agrees with what is passed. -/
  balanced : Balanced spans cursor
  /-- Each binding has the part of the template that it was read from. -/
  read : List.Forall₂ (ReadFrom policy template) spans cursor.query.bindings
  /-- An open literal goes from its quote to the cursor. -/
  inside : InsideLiteral template cursor

theorem invariant_initial (policy : TailPolicy) (template : Text) :
    Invariant policy template [] initial where
  boundary := ⟨[], template, rfl, rfl⟩
  within := Nat.zero_le _
  balanced := ⟨rfl, rfl, by simp [initial]⟩
  read := .nil
  inside := by simp [InsideLiteral, initial]

/-- A round keeps what holds of the cursor. -/
theorem Invariant.round (invariant : Invariant policy template spans cursor)
    (moved : cursor.round? policy template = some (.moved next)) :
    Invariant policy template (spans ++ spanned cursor next) next := by
  obtain ⟨_, within⟩ := position_of_round? moved
  obtain ⟨passed, consumed, rest, template_eq, _, _, position_eq⟩ := exists_passed_of_round? moved
  have boundary : template.IsBoundary next.position :=
    ⟨passed ++ consumed, rest, template_eq, position_eq⟩
  obtain ⟨front, symbol, tail, rfl, stands, moves⟩ := moves_of_round? moved
  exact ⟨boundary, within, invariant.balanced.moves moves,
    readFrom_moves invariant.read stands moves, invariant.inside.moves stands moves⟩

/-- Between two characters there is a further round, unless the cursor stands at the end. -/
theorem round?_of_boundary (policy : TailPolicy) (boundary : template.IsBoundary cursor.position) :
    (cursor.position = Text.byteLength template ∧
        cursor.round? policy template = some .finished) ∨
      ∃ next, cursor.round? policy template = some (.moved next) ∧
        cursor.position < next.position := by
  obtain ⟨front, rest, rfl, stands⟩ := boundary
  cases rest with
  | nil =>
      rw [List.append_nil]
      exact .inl ⟨stands.symm, round?_of_end policy stands⟩
  | cons symbol tail =>
      obtain ⟨next, moved, moves⟩ := exists_round? stands policy symbol tail
      exact .inr ⟨next, moved, moves.forward⟩

namespace Reached

variable {rounds : Nat}

theorem invariant (reached : Reached policy template rounds spans cursor) :
    Invariant policy template spans cursor := by
  induction reached with
  | start => exact invariant_initial policy template
  | round _ moved induction => exact induction.round moved

/-- Each round has passed a character. -/
theorem exists_passed (reached : Reached policy template rounds spans cursor) :
    ∃ front rest, template = front ++ rest ∧ Text.byteLength front = cursor.position ∧
      rounds ≤ front.length := by
  induction reached with
  | start => exact ⟨[], template, rfl, rfl, Nat.le_refl 0⟩
  | round _ moved induction =>
      obtain ⟨passed, _, template_eq, passed_width, bound⟩ := induction
      obtain ⟨front, consumed, rest, rfl, nonempty, stands, position_eq⟩ :=
        exists_passed_of_round? moved
      rw [List.append_assoc] at template_eq
      obtain rfl := Text.eq_of_append_eq template_eq (stands.trans passed_width.symm)
      refine ⟨front ++ consumed, rest, rfl, position_eq, ?_⟩
      rw [List.length_append]
      exact Nat.add_le_add bound (List.length_pos_iff.mpr nonempty)

theorem rounds_le (reached : Reached policy template rounds spans cursor) :
    rounds ≤ template.length := by
  obtain ⟨front, rest, rfl, _, bound⟩ := reached.exists_passed
  rw [List.length_append]
  omega

/-- The rounds end, and only at the end of the template. -/
theorem exists_end {rounds : Nat} {spans : List Span} {cursor : Cursor}
    (reached : Reached policy template rounds spans cursor) :
    ∃ rounds spans last, Reached policy template rounds spans last ∧
      last.position = Text.byteLength template ∧ cursor.loop? policy template = some last := by
  obtain ⟨atEnd, _⟩ | ⟨next, moved, forward⟩ := round?_of_boundary policy reached.invariant.boundary
  · exact ⟨rounds, spans, cursor, reached, atEnd, loop?_of_end policy atEnd.symm⟩
  · have within := (position_of_round? moved).2
    obtain ⟨rounds, spans, last, reached, atEnd, ends⟩ := exists_end (reached.round moved)
    exact ⟨rounds, spans, last, reached, atEnd, (loop?_of_moved moved).trans ends⟩
termination_by Text.byteLength template - cursor.position

end Reached

/-- At the start of every round the cursor stands between two characters, its query and its faults
agree with how far it is, and unless it stands at the end, no cut fails and the round moves it
forward. So the rounds, of which there are at most as many as characters, end at the end of the
template, with its query and its first fault. -/
theorem rounds_lead_to_end (policy : TailPolicy) (template : Text) :
    (∀ rounds spans cursor, Reached policy template rounds spans cursor →
      Invariant policy template spans cursor ∧
        ((cursor.position = Text.byteLength template ∧
            cursor.round? policy template = some .finished) ∨
          ∃ next, cursor.round? policy template = some (.moved next) ∧
            cursor.position < next.position)) ∧
      (∃ rounds spans last, Reached policy template rounds spans last ∧
        rounds ≤ template.length ∧ last.position = Text.byteLength template ∧
        initial.loop? policy template = some last) ∧
      scan? policy template = some (Query.parse policy template, Template.fault? template) := by
  refine ⟨?_, ?_, scan?_eq policy template⟩
  · intro rounds spans cursor reached
    exact ⟨reached.invariant, round?_of_boundary policy reached.invariant.boundary⟩
  · obtain ⟨rounds, spans, last, reached, atEnd, ends⟩ :=
      (Reached.start : Reached policy template 0 [] initial).exists_end
    exact ⟨rounds, spans, last, reached, reached.rounds_le, atEnd, ends⟩

/-- A cursor behind a name and a quote, in front of what is no index in a literal. -/
theorem rounds_lead_to_end_literal :
    Reached .absorb "é:a'?0".toList 3 [⟨2, 4⟩]
        ⟨5, .literal 4, ⟨"é?_param_?'".toList, [.named ['a']], [2]⟩, none⟩ ∧
      Invariant .absorb "é:a'?0".toList [⟨2, 4⟩]
        ⟨5, .literal 4, ⟨"é?_param_?'".toList, [.named ['a']], [2]⟩, none⟩ ∧
      (∃ rounds spans last, Reached .absorb "é:a'?0".toList rounds spans last ∧ rounds ≤ 6 ∧
        last.position = 7) ∧
      scan? .absorb "é:a'?0".toList =
        some (⟨"é?_param_?'?0".toList, [.named ['a']], [2]⟩, some (.openLiteral 4)) := by
  obtain ⟨every, ⟨rounds, spans, last, reachedEnd, bound, atEnd, _⟩, scanned⟩ :=
    rounds_lead_to_end .absorb "é:a'?0".toList
  have first : initial.round? .absorb "é:a'?0".toList =
      some (.moved ⟨2, .outside, ⟨"é".toList, [], []⟩, none⟩) := by decide +kernel
  have second : (⟨2, .outside, ⟨"é".toList, [], []⟩, none⟩ : Cursor).round? .absorb
      "é:a'?0".toList =
        some (.moved ⟨4, .outside, ⟨"é?_param_?".toList, [.named ['a']], [2]⟩, none⟩) := by
    decide +kernel
  have third : (⟨4, .outside, ⟨"é?_param_?".toList, [.named ['a']], [2]⟩, none⟩ : Cursor).round?
      .absorb "é:a'?0".toList =
        some (.moved ⟨5, .literal 4, ⟨"é?_param_?'".toList, [.named ['a']], [2]⟩, none⟩) := by
    decide +kernel
  have reached := ((Reached.start.round first).round second).round third
  exact ⟨reached, (every _ _ _ reached).1, ⟨rounds, spans, last, reachedEnd, bound, atEnd⟩,
    scanned.trans (by decide +kernel)⟩

end Cursor
end CqlText
