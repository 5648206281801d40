import CqlText.Proofs.IdentifierText
import CqlText.Schema.Alteration

/-!
# Changes told from their clauses

No name, however it is written, can pass for the end of its clause and the start of another. The
type of a new column can, since nothing marks its end, so a column may be added in the last clause
only. The main statements are `ColumnChange.clause_append_inj`, for one clause and the text behind
it, and from it `Alteration.changes_eq_of_buffer_eq`, for all the clauses of a statement.
-/

namespace CqlText

/-- The text carries no identifier on. -/
def Text.Delimits (text : Text) : Prop :=
  ∀ quoted, Stops (Identifier.carries quoted) text

theorem Text.delimits_nil : Delimits [] :=
  fun quoted => stops_nil (Identifier.carries quoted)

theorem Text.delimits_cons {symbol : Char} (text : Text)
    (noWord : Identifier.isWordSymbol symbol = false) (noQuote : symbol ≠ '"') :
    Delimits (symbol :: text) := by
  intro quoted
  rw [stops_cons]
  cases quoted with
  | true => simpa [Identifier.carries] using noQuote
  | false => exact noWord

namespace ColumnChange

theorem clause_ne_nil (change : ColumnChange) : change.clause ≠ [] := by
  cases change <;> simp [clause_add, clause_drop, clause_rename]

theorem drop_append_inj {column column' : Identifier} {rest rest' : Text}
    (ends : rest.Delimits) (ends' : rest'.Delimits)
    (same : (drop column).clause ++ rest = (drop column').clause ++ rest') :
    column = column' ∧ rest = rest' := by
  rw [clause_drop, clause_drop, List.append_assoc, List.append_assoc,
    List.append_cancel_left_eq] at same
  exact Identifier.text_append_inj (ends _) (ends' _) same

theorem rename_append_inj {column column' newName newName' : Identifier} {rest rest' : Text}
    (ends : rest.Delimits) (ends' : rest'.Delimits)
    (same : (rename column newName).clause ++ rest = (rename column' newName').clause ++ rest') :
    (column = column' ∧ newName = newName') ∧ rest = rest' := by
  have between (text : Text) : Text.Delimits (" TO ".toList ++ text) :=
    Text.delimits_cons _ rfl (by decide)
  simp only [clause_rename, List.append_assoc, List.append_cancel_left_eq] at same
  obtain ⟨column_eq, behind⟩ := Identifier.text_append_inj (between _ _) (between _ _) same
  obtain ⟨newName_eq, rest_eq⟩ := Identifier.text_append_inj (ends _) (ends' _)
    (List.append_cancel_left behind)
  exact ⟨⟨column_eq, newName_eq⟩, rest_eq⟩

theorem add_inj {column column' : Identifier} {dataType dataType' : DataType}
    (same : (add column dataType).clause = (add column' dataType').clause) :
    column = column' ∧ dataType = dataType' := by
  have between (text : Text) : Text.Delimits (' ' :: text) :=
    Text.delimits_cons _ rfl (by decide)
  simp only [clause_add, List.append_assoc, List.append_cancel_left_eq] at same
  obtain ⟨column_eq, behind⟩ := Identifier.text_append_inj (between _ _) (between _ _) same
  exact ⟨column_eq, DataType.ext (List.cons.inj behind).2⟩

/-- A clause and the text behind it are told from what they make up, if a clause that adds a column
has nothing behind it. -/
theorem clause_append_inj {change change' : ColumnChange} {rest rest' : Text}
    (ends : rest.Delimits) (ends' : rest'.Delimits)
    (last : change.dataType? ≠ none → rest = []) (last' : change'.dataType? ≠ none → rest' = [])
    (same : change.clause ++ rest = change'.clause ++ rest') : change = change' ∧ rest = rest' := by
  cases change <;> cases change'
  case add.add column dataType column' dataType' =>
    obtain rfl : rest = [] := last (by simp [dataType?])
    obtain rfl : rest' = [] := last' (by simp [dataType?])
    rw [List.append_nil, List.append_nil] at same
    obtain ⟨rfl, rfl⟩ := add_inj same
    exact ⟨rfl, rfl⟩
  case drop.drop column column' =>
    obtain ⟨rfl, rest_eq⟩ := drop_append_inj ends ends' same
    exact ⟨rfl, rest_eq⟩
  case rename.rename column newName column' newName' =>
    obtain ⟨⟨rfl, rfl⟩, rest_eq⟩ := rename_append_inj ends ends' same
    exact ⟨rfl, rest_eq⟩
  -- Clauses of two kinds differ in their first character.
  all_goals simp [clause_add, clause_drop, clause_rename] at same

/-- No change but the last one adds a column. -/
def AddsLast (changes : List ColumnChange) : Prop :=
  ∀ change ∈ changes.dropLast, change.dataType? = none

instance (changes : List ColumnChange) : Decidable (AddsLast changes) :=
  inferInstanceAs (Decidable (∀ change ∈ changes.dropLast, change.dataType? = none))

theorem addsLast_cons {change : ColumnChange} {changes : List ColumnChange} :
    AddsLast (change :: changes) ↔
      (change.dataType? ≠ none → changes = []) ∧ AddsLast changes := by
  cases changes with
  | nil => simp [AddsLast]
  | cons next changes => simp [AddsLast]

/-- Clauses in a row, each behind a separator. -/
def separated (separator : Text) (changes : List ColumnChange) : Text :=
  changes.flatMap fun change => separator ++ change.clause

theorem separated_cons (separator : Text) (change : ColumnChange) (changes : List ColumnChange) :
    separated separator (change :: changes) =
      separator ++ (change.clause ++ separated separator changes) := by
  simp [separated]

section

variable {separator : Text} (separates : ∀ text, Text.Delimits (separator ++ text))

include separates

theorem delimits_separated (changes : List ColumnChange) :
    (separated separator changes).Delimits := by
  cases changes with
  | nil => exact Text.delimits_nil
  | cons change changes =>
      rw [separated_cons]
      exact separates _

/-- A first clause and those behind it are told from what they make up. -/
theorem separated_append_inj {change change' : ColumnChange} {changes changes' : List ColumnChange}
    (last : AddsLast (change :: changes)) (last' : AddsLast (change' :: changes'))
    (same : change.clause ++ separated separator changes =
      change'.clause ++ separated separator changes') :
    change = change' ∧ separated separator changes = separated separator changes' := by
  refine clause_append_inj (delimits_separated separates changes)
    (delimits_separated separates changes') ?_ ?_ same
  · intro adds
    obtain rfl := (addsLast_cons.mp last).1 adds
    rfl
  · intro adds
    obtain rfl := (addsLast_cons.mp last').1 adds
    rfl

theorem separated_inj {changes changes' : List ColumnChange} (last : AddsLast changes)
    (last' : AddsLast changes')
    (same : separated separator changes = separated separator changes') : changes = changes' := by
  induction changes generalizing changes' with
  | nil =>
      cases changes' with
      | nil => rfl
      | cons change' changes' => simp [separated, change'.clause_ne_nil] at same
  | cons change changes induction =>
      cases changes' with
      | nil => simp [separated, change.clause_ne_nil] at same
      | cons change' changes' =>
          rw [separated_cons, separated_cons, List.append_cancel_left_eq] at same
          obtain ⟨rfl, others⟩ := separated_append_inj separates last last' same
          rw [induction (addsLast_cons.mp last).2 (addsLast_cons.mp last').2 others]

end

end ColumnChange

namespace Alteration

open ColumnChange

/-- The first clause stands directly behind the text that a statement starts with. -/
theorem buffer_start_append (buffer separator : Text) (change : ColumnChange)
    (changes : List ColumnChange) :
    ((start buffer separator).append (change :: changes)).buffer =
      buffer ++ (change.clause ++ separated separator changes) := by
  rw [buffer_append]
  simp [start, gap, separated]

theorem prefix_buffer (buffer separator : Text) (changes : List ColumnChange) :
    buffer <+: ((start buffer separator).append changes).buffer := by
  cases changes with
  | nil => exact List.prefix_rfl
  | cons change changes =>
      rw [buffer_start_append]
      exact List.prefix_append _ _

/-- The changes are told from the statement, if its separator carries no identifier on. -/
theorem changes_eq_of_buffer_eq {buffer separator : Text}
    (separates : ∀ text, Text.Delimits (separator ++ text)) {changes changes' : List ColumnChange}
    (last : AddsLast changes) (last' : AddsLast changes')
    (same : ((start buffer separator).append changes).buffer =
      ((start buffer separator).append changes').buffer) : changes = changes' := by
  cases changes with
  | nil =>
      cases changes' with
      | nil => rfl
      | cons change' changes' =>
          rw [buffer_start_append] at same
          simp [start, change'.clause_ne_nil] at same
  | cons change changes =>
      cases changes' with
      | nil =>
          rw [buffer_start_append] at same
          simp [start, change.clause_ne_nil] at same
      | cons change' changes' =>
          rw [buffer_start_append, buffer_start_append, List.append_cancel_left_eq] at same
          apply separated_inj separates last last'
          rw [separated_cons, separated_cons, same]

theorem delimits_comma (text : Text) : Text.Delimits (", ".toList ++ text) :=
  Text.delimits_cons (' ' :: text) rfl (by decide)

/-- The changes that requests build are told from the statement that they leave in the end. -/
theorem built_eq_of_run {buffer : Text} {requests requests' : List ChangeRequest}
    {after after' : Alteration} {outcome outcome' : Outcome}
    (last : AddsLast (ChangeRequest.built requests))
    (last' : AddsLast (ChangeRequest.built requests'))
    (reached : ((start buffer ", ".toList).run requests).getLast? = some (after, outcome))
    (reached' : ((start buffer ", ".toList).run requests').getLast? = some (after', outcome'))
    (same : after.buffer = after'.buffer) :
    ChangeRequest.built requests = ChangeRequest.built requests' := by
  rw [last_of_run reached, last_of_run reached'] at same
  exact changes_eq_of_buffer_eq delimits_comma last last' same

/-- A statement goes on from the text it starts with. With a comma and a blank between its clauses,
the changes are told from it if none but the last one adds a column, and each change is told from
its clause. -/
theorem changes_told_apart (buffer : Text) :
    (∀ changes, buffer <+: ((start buffer ", ".toList).append changes).buffer) ∧
      (∀ changes changes', AddsLast changes → AddsLast changes' →
        (((start buffer ", ".toList).append changes).buffer =
            ((start buffer ", ".toList).append changes').buffer ↔ changes = changes')) ∧
      ∀ change change' : ColumnChange, change.clause = change'.clause ↔ change = change' := by
  refine ⟨prefix_buffer buffer _, ?_, ?_⟩
  · intro changes changes' last last'
    constructor
    · exact changes_eq_of_buffer_eq delimits_comma last last'
    · rintro rfl
      rfl
  · intro change change'
    constructor
    · intro same
      have alone : change.clause ++ [] = change'.clause ++ [] := by rw [same]
      exact (clause_append_inj Text.delimits_nil Text.delimits_nil (fun _ => rfl) (fun _ => rfl)
        alone).1
    · rintro rfl
      rfl

/-- A name that looks like the end of a clause and the start of another, and a type that does. -/
theorem changes_told_apart_quoted :
    ∃ one two : List ColumnChange,
      [ChangeRequest.drop ⟨"a\", DROP \"b".toList, true⟩,
          .add ⟨['c'], false⟩ " int, DROP d".toList].mapM ChangeRequest.build = .ok one ∧
        [ChangeRequest.drop ⟨['a'], true⟩, .drop ⟨['b'], true⟩,
          .add ⟨['c'], false⟩ " int, DROP d".toList].mapM ChangeRequest.build = .ok two ∧
        AddsLast one ∧ AddsLast two ∧
        ((start "ALTER TABLE t ".toList ", ".toList).append one).buffer =
          "ALTER TABLE t DROP \"a\"\", DROP \"\"b\", ADD c int, DROP d".toList ∧
        ((start "ALTER TABLE t ".toList ", ".toList).append one).buffer ≠
          ((start "ALTER TABLE t ".toList ", ".toList).append two).buffer := by
  let last : ColumnChange :=
    .add ⟨['c'], false, by simp, by decide⟩
      ⟨"int, DROP d".toList, by decide, by decide +kernel⟩
  let one : List ColumnChange := [.drop ⟨"a\", DROP \"b".toList, true, by decide, by simp⟩, last]
  let two : List ColumnChange :=
    [.drop ⟨['a'], true, by simp, by simp⟩, .drop ⟨['b'], true, by simp, by simp⟩, last]
  have lastOne : AddsLast one := by decide +kernel
  have lastTwo : AddsLast two := by decide +kernel
  refine ⟨one, two, rfl, rfl, lastOne, lastTwo, by decide +kernel, ?_⟩
  rw [ne_eq, (changes_told_apart _).2.1 one two lastOne lastTwo]
  simp [one, two]

end Alteration
end CqlText
