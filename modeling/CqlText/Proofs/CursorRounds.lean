import CqlText.Proofs.Cursor

/-!
# The rounds of a pass

A pass takes a cursor from the start of a template to its end, one step in each round. The main
statement is `scan?_eq`: a pass ends, with the query of the template and its first fault.
-/

namespace CqlText

namespace Cursor

/-- What comes of a round. -/
inductive Round where
  /-- The cursor stands at the end. -/
  | finished
  /-- The cursor has moved. -/
  | moved (next : Cursor)
deriving DecidableEq

/-- One round of the pass. There is none if a cut falls off the boundaries of characters. -/
def round? (policy : TailPolicy) (template : Text) (cursor : Cursor) : Option Round :=
  (Text.behind? cursor.position template).bind fun rest =>
    match rest with
    | [] => some .finished
    | symbol :: _ => (cursor.step? policy template symbol).map .moved

variable {policy : TailPolicy} {template front : Text} {cursor next : Cursor}

theorem round?_of_end (policy : TailPolicy) (atEnd : Text.byteLength template = cursor.position) :
    cursor.round? policy template = some .finished := by
  have rest := Text.behind?_append template []
  rw [List.append_nil, atEnd] at rest
  rw [round?, rest]
  rfl

theorem exists_round? (stands : Text.byteLength front = cursor.position) (policy : TailPolicy)
    (symbol : Char) (tail : Text) :
    ∃ next, cursor.round? policy (front ++ symbol :: tail) = some (.moved next) ∧
      Moves policy cursor symbol tail next := by
  obtain ⟨next, stepped, moves⟩ := exists_moves stands policy symbol tail
  have rest := Text.behind?_append front (symbol :: tail)
  rw [stands] at rest
  refine ⟨next, ?_, moves⟩
  simp only [round?, rest, Option.bind_some, stepped, Option.map_some]

/-- A round moves the cursor from between two characters, as a step does there. -/
theorem moves_of_round? (moved : cursor.round? policy template = some (.moved next)) :
    ∃ front symbol tail, template = front ++ symbol :: tail ∧
      Text.byteLength front = cursor.position ∧ Moves policy cursor symbol tail next := by
  obtain ⟨rest, found, _⟩ := Option.bind_eq_some_iff.mp moved
  obtain ⟨front, rfl, stands⟩ := Text.behind?_eq_some_iff.mp found
  cases rest with
  | nil =>
      rw [List.append_nil, round?_of_end policy stands] at moved
      simp at moved
  | cons symbol tail =>
      obtain ⟨other, moved', moves⟩ := exists_round? stands policy symbol tail
      obtain rfl : other = next := by simpa [moved'] using moved
      exact ⟨front, symbol, tail, rfl, stands, moves⟩

/-- A round passes a part of the template that starts at the cursor. -/
theorem exists_passed_of_round? (moved : cursor.round? policy template = some (.moved next)) :
    ∃ front consumed rest, template = front ++ consumed ++ rest ∧ consumed ≠ [] ∧
      Text.byteLength front = cursor.position ∧
      Text.byteLength (front ++ consumed) = next.position := by
  obtain ⟨front, symbol, tail, rfl, stands, moves⟩ := moves_of_round? moved
  obtain ⟨consumed, rest, whole, nonempty, position_eq⟩ := moves.exists_consumed
  refine ⟨front, consumed, rest, by simp [whole], nonempty, stands, ?_⟩
  rw [Text.byteLength_append, stands, position_eq]

/-- A round goes forward, and not beyond the end. -/
theorem position_of_round? (moved : cursor.round? policy template = some (.moved next)) :
    cursor.position < next.position ∧ next.position ≤ Text.byteLength template := by
  obtain ⟨front, consumed, rest, rfl, nonempty, stands, position_eq⟩ :=
    exists_passed_of_round? moved
  have width := Text.byteLength_pos nonempty
  rw [← stands, ← position_eq, Text.byteLength_append _ rest, Text.byteLength_append]
  omega

/-- The cursor after all further rounds. -/
def loop? (policy : TailPolicy) (template : Text) (cursor : Cursor) : Option Cursor :=
  match _ : cursor.round? policy template with
  | none => none
  | some .finished => some cursor
  | some (.moved next) => next.loop? policy template
termination_by Text.byteLength template - cursor.position
decreasing_by
  have := position_of_round? (by assumption)
  omega

/-- Report a literal that is still open. -/
def settle (cursor : Cursor) : Cursor :=
  match cursor.place with
  | .outside => cursor
  | .literal start => cursor.report (.openLiteral start)

/-- The query and the first fault that a pass over a template gives. -/
def scan? (policy : TailPolicy) (template : Text) : Option (Query × Option Fault) :=
  (initial.loop? policy template).map fun last => (last.query, last.settle.fault?)

theorem loop?_of_end (policy : TailPolicy) (atEnd : Text.byteLength template = cursor.position) :
    cursor.loop? policy template = some cursor := by
  have turned := round?_of_end policy atEnd
  rw [loop?]
  split <;> simp_all

theorem loop?_of_moved (moved : cursor.round? policy template = some (.moved next)) :
    cursor.loop? policy template = next.loop? policy template := by
  rw [loop?]
  split <;> simp_all

theorem copy_copy (first second : Text) (cursor : Cursor) :
    (cursor.copy first).copy second = cursor.copy (first ++ second) := by
  simp [copy, Nat.add_assoc]

/-- A step has one outcome. -/
theorem Moves.unique {symbol : Char} {tail : Text} {other : Cursor}
    (moves : Moves policy cursor symbol tail next)
    (moves' : Moves policy cursor symbol tail other) : next = other := by
  cases moves <;> cases moves' <;> simp_all

theorem round?_of_moves (stands : Text.byteLength front = cursor.position) {symbol : Char}
    {tail : Text} (moves : Moves policy cursor symbol tail next) :
    cursor.round? policy (front ++ symbol :: tail) = some (.moved next) := by
  obtain ⟨other, moved, moves'⟩ := exists_round? stands policy symbol tail
  rw [moved, moves.unique moves']

/-- In a literal, rounds copy what holds no quote. -/
theorem loop?_literal {content : Text} (free : '\'' ∉ content) {start : Nat} (rest : Text)
    (stands : Text.byteLength front = cursor.position) (inside : cursor.place = .literal start) :
    cursor.loop? policy (front ++ (content ++ rest)) =
      (cursor.copy content).loop? policy (front ++ (content ++ rest)) := by
  induction content generalizing front cursor with
  | nil => simp [copy]
  | cons symbol content induction =>
      rw [List.mem_cons, not_or] at free
      have moved : cursor.round? policy (front ++ symbol :: (content ++ rest)) =
          some (.moved (cursor.copy [symbol])) :=
        round?_of_moves stands (.copied inside (Ne.symm free.1))
      have width : Text.byteLength (front ++ [symbol]) = (cursor.copy [symbol]).position := by
        simp [copy, stands]
      have behind := induction free.2 width inside
      rw [List.append_assoc, copy_copy] at behind
      exact (loop?_of_moved moved).trans behind

/-- The rounds from a cursor on end with the query and the first fault of the text that is left. -/
structure Completes (policy : TailPolicy) (template rest : Text) (cursor last : Cursor) :
    Prop where
  /-- The rounds end. -/
  ends : cursor.loop? policy template = some last
  /-- The query of the text that is left is behind the one so far. -/
  query : last.query = cursor.query ++ Query.parse policy rest
  /-- A fault so far goes before those of the text that is left. -/
  fault : last.settle.fault? =
    cursor.fault?.or (Template.firstFault? cursor.position (Template.lexemes rest))

/-- Rounds that pass a lexeme go on with what is behind it. -/
theorem Completes.of_pass {first : Char} {tail : Text} {last : Cursor}
    (behind : Completes policy template (Lexeme.read first tail).2
      (cursor.pass policy (Lexeme.read first tail).1) last)
    (passed : cursor.loop? policy template =
      (cursor.pass policy (Lexeme.read first tail).1).loop? policy template) :
    Completes policy template (first :: tail) cursor last where
  ends := passed.trans behind.ends
  query := by rw [behind.query, pass, Query.append_assoc, Query.parse_cons]
  fault := by
    rw [behind.fault, pass, Option.or_assoc, Template.lexemes_cons, Template.firstFault?_cons]

/-- The cursor in the literal that a quote at it opens, behind some of the content. -/
def intoLiteral (content : Text) (cursor : Cursor) : Cursor :=
  { cursor with place := .literal cursor.position }.copy ('\'' :: content)

theorem byteLength_intoLiteral (stands : Text.byteLength front = cursor.position)
    (content : Text) :
    Text.byteLength (front ++ '\'' :: content) = (cursor.intoLiteral content).position := by
  rw [Text.byteLength_append, stands, intoLiteral, copy]

theorem loop?_opened {content : Text} (free : '\'' ∉ content) (rest : Text)
    (stands : Text.byteLength front = cursor.position) (outside : cursor.place = .outside) :
    cursor.loop? policy (front ++ '\'' :: (content ++ rest)) =
      (cursor.intoLiteral content).loop? policy (front ++ '\'' :: (content ++ rest)) := by
  have moved : cursor.round? policy (front ++ '\'' :: (content ++ rest)) =
      some (.moved (cursor.intoLiteral [])) := round?_of_moves stands (.opened outside)
  have copied : (cursor.intoLiteral []).loop? policy (front ++ ['\''] ++ (content ++ rest)) =
      ((cursor.intoLiteral []).copy content).loop? policy (front ++ ['\''] ++ (content ++ rest)) :=
    loop?_literal free rest (byteLength_intoLiteral stands []) rfl
  rw [List.append_assoc, intoLiteral, copy_copy] at copied
  exact (loop?_of_moved moved).trans copied

/-- The rounds from a quote to the one that closes the literal pass the literal. -/
theorem loop?_closed {content : Text} (free : '\'' ∉ content) (rest : Text)
    (stands : Text.byteLength front = cursor.position) (outside : cursor.place = .outside) :
    cursor.loop? policy (front ++ '\'' :: (content ++ '\'' :: rest)) =
      (cursor.pass policy (.literal content true)).loop? policy
        (front ++ '\'' :: (content ++ '\'' :: rest)) := by
  have moved : (cursor.intoLiteral content).round? policy
      (front ++ '\'' :: content ++ '\'' :: rest) =
        some (.moved ({ cursor.intoLiteral content with place := .outside }.copy ['\''])) :=
    round?_of_moves (byteLength_intoLiteral stands content) (.closed rfl)
  have passed : { cursor.intoLiteral content with place := .outside }.copy ['\''] =
      cursor.pass policy (.literal content true) := by
    simp [intoLiteral, copy, pass, outside, Lexeme.piece, Lexeme.source, Lexeme.fault?,
      Query.append_copied, Nat.add_assoc]
  rw [List.append_assoc, List.cons_append, passed] at moved
  exact (loop?_opened free _ stands outside).trans (loop?_of_moved moved)

/-- The rounds from a quote to the end of a literal that is never closed. -/
theorem completes_literal {content : Text} (free : '\'' ∉ content)
    (stands : Text.byteLength front = cursor.position) (outside : cursor.place = .outside) :
    Completes policy (front ++ '\'' :: content) ('\'' :: content) cursor
      (cursor.intoLiteral content) := by
  have read : Lexeme.read '\'' content = (.literal content false, []) := by
    rw [Lexeme.read_quote, Lexeme.readLiteral, Text.partAt_of_notMem free]
  have opened : cursor.loop? policy (front ++ '\'' :: (content ++ [])) =
      (cursor.intoLiteral content).loop? policy (front ++ '\'' :: (content ++ [])) :=
    loop?_opened free [] stands outside
  rw [List.append_nil] at opened
  refine ⟨opened.trans (loop?_of_end policy (byteLength_intoLiteral stands content)), ?_, ?_⟩
  · simp [Query.parse_cons, read, intoLiteral, copy, Lexeme.piece, Lexeme.source,
      Query.append_copied]
  · simp [Template.lexemes_cons, Template.firstFault?_cons, read, settle, intoLiteral, copy, report,
      Lexeme.fault?]

theorem exists_completes (rest : Text) (stands : Text.byteLength front = cursor.position)
    (outside : cursor.place = .outside) :
    ∃ last, Completes policy (front ++ rest) rest cursor last := by
  induction rest using Template.lexemeInduction generalizing front cursor with
  | nil =>
      refine ⟨cursor, loop?_of_end policy (by simpa using stands), by simp, ?_⟩
      simp [settle, outside, Template.firstFault?]
  | cons first tail induction =>
      have source_eq := Lexeme.read_source first tail
      have width : Text.byteLength (front ++ (Lexeme.read first tail).1.source) =
          (cursor.pass policy (Lexeme.read first tail).1).position := by
        rw [Text.byteLength_append, stands, pass]
      obtain ⟨last, behind⟩ := induction width outside
      rw [List.append_assoc, source_eq] at behind
      -- A literal takes a round for each of its characters, any other lexeme a single one.
      by_cases quote : first = '\''
      · subst quote
        by_cases closed : '\'' ∈ tail
        · obtain ⟨content, after, rfl, free⟩ := List.eq_append_cons_of_mem closed
          refine ⟨last, behind.of_pass ?_⟩
          rw [Lexeme.read_quote, Lexeme.readLiteral, Text.partAt_append after free]
          exact loop?_closed free after stands outside
        · exact ⟨_, completes_literal closed stands outside⟩
      · exact ⟨last, behind.of_pass
          (loop?_of_moved (round?_of_moves stands (.passed outside quote)))⟩

/-- A pass over a template ends, with its query and its first fault. -/
theorem scan?_eq (policy : TailPolicy) (template : Text) :
    scan? policy template = some (Query.parse policy template, Template.fault? template) := by
  have stands : Text.byteLength [] = initial.position := rfl
  obtain ⟨last, ends, query_eq, fault_eq⟩ :
      ∃ last, Completes policy ([] ++ template) template initial last :=
    exists_completes template stands rfl
  rw [List.nil_append] at ends
  rw [scan?, ends, Option.map_some, query_eq, fault_eq]
  simp [initial, Template.fault?]

end Cursor
end CqlText
