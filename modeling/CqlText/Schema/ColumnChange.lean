import CqlText.Schema.Identifier
import CqlText.Text.Blank

/-!
# Column changes

The changes that a statement altering a table makes to its columns, and the clause that describes
each.
-/

namespace CqlText

/-- The type of a column, without blanks around it. -/
@[ext] structure DataType where
  /-- The type as written. -/
  text : Text
  /-- No type is blank. -/
  text_ne_nil : text ≠ []
  /-- No blanks stand around it. -/
  isTrimmed : Text.IsTrimmed text

namespace DataType

instance : DecidableEq DataType :=
  fun left right => decidable_of_iff (left.text = right.text) DataType.ext_iff.symm

/-- The type that a text describes, unless the text is blank. -/
def ofText? (text : Text) : Option DataType :=
  if nonempty : Text.trim text ≠ [] then
    some ⟨Text.trim text, nonempty, Text.isTrimmed_trim text⟩
  else
    none

end DataType

/-- A change of one column. -/
inductive ColumnChange where
  /-- A new column with its type. -/
  | add (column : Identifier) (dataType : DataType)
  /-- A column taken away. -/
  | drop (column : Identifier)
  /-- A new name for a column. -/
  | rename (column newName : Identifier)
deriving DecidableEq

namespace ColumnChange

/-- The column that is changed, by its present name. -/
def column : ColumnChange → Identifier
  | add column _ => column
  | drop column => column
  | rename column _ => column

/-- The type of a new column. -/
def dataType? : ColumnChange → Option DataType
  | add _ dataType => some dataType
  | _ => none

/-- The new name of a renamed column. -/
def newName? : ColumnChange → Option Identifier
  | rename _ newName => some newName
  | _ => none

/-- Write the clause that describes a change behind a text. -/
def write (buffer : Text) : ColumnChange → Text
  | add column dataType => column.write (buffer ++ "ADD ".toList) ++ [' '] ++ dataType.text
  | drop column => column.write (buffer ++ "DROP ".toList)
  | rename column newName =>
      newName.write (column.write (buffer ++ "RENAME ".toList) ++ " TO ".toList)

/-- The clause that describes a change. -/
def clause (change : ColumnChange) : Text :=
  change.write []

theorem clause_add (column : Identifier) (dataType : DataType) :
    (add column dataType).clause = "ADD ".toList ++ column.text ++ ' ' :: dataType.text := by
  simp [clause, write, Identifier.write_eq_append_text]

theorem clause_drop (column : Identifier) :
    (drop column).clause = "DROP ".toList ++ column.text := by
  simp [clause, write, Identifier.write_eq_append_text]

theorem clause_rename (column newName : Identifier) :
    (rename column newName).clause =
      "RENAME ".toList ++ column.text ++ " TO ".toList ++ newName.text := by
  simp [clause, write, Identifier.write_eq_append_text]

/-- A clause is written behind a text as it is by itself. -/
theorem write_eq_append_clause (change : ColumnChange) (buffer : Text) :
    change.write buffer = buffer ++ change.clause := by
  cases change with
  | add column dataType => simp [write, clause_add, Identifier.write_eq_append_text]
  | drop column => simp [write, clause_drop, Identifier.write_eq_append_text]
  | rename column newName => simp [write, clause_rename, Identifier.write_eq_append_text]

end ColumnChange
end CqlText
