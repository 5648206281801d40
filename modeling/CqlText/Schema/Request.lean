import CqlText.Schema.ColumnChange

/-!
# Requests for column changes

Names and types are asked for as texts. A request is refused if one of its names is empty or its
type is blank.
-/

namespace CqlText

/-- Why a request is refused. -/
inductive RequestError where
  /-- A name is empty. -/
  | emptyName
  /-- The type of a column is blank. -/
  | blankType (column : Text)
deriving DecidableEq

/-- The report of a refusal. -/
def RequestError.message : RequestError → String
  | emptyName => "identifier cannot be empty"
  | blankType column => s!"data type for column {String.ofList column} cannot be empty"

/-- A name as asked for. -/
structure NameRequest where
  /-- The name. -/
  name : Text
  /-- Whether quotes are demanded. -/
  quoted : Bool
deriving DecidableEq

/-- The identifier asked for. -/
def NameRequest.build (request : NameRequest) : Except RequestError Identifier :=
  match Identifier.ofName? request.name request.quoted with
  | some identifier => .ok identifier
  | none => .error .emptyName

/-- A column change as asked for. -/
inductive ChangeRequest where
  /-- A new column with its type. -/
  | add (column : NameRequest) (dataType : Text)
  /-- A column taken away. -/
  | drop (column : NameRequest)
  /-- A new name for a column. -/
  | rename (column newName : NameRequest)
deriving DecidableEq

/-- The change asked for. Of two refusals the one that stands first in the clause is reported. -/
def ChangeRequest.build : ChangeRequest → Except RequestError ColumnChange
  | add column dataType => do
      let column ← column.build
      match DataType.ofText? dataType with
      | some dataType => .ok (.add column dataType)
      | none => .error (.blankType column.name)
  | drop column => do
      let column ← column.build
      .ok (.drop column)
  | rename column newName => do
      let column ← column.build
      let newName ← newName.build
      .ok (.rename column newName)

/-- The changes that requests ask for, without those that are refused. -/
def ChangeRequest.built (requests : List ChangeRequest) : List ColumnChange :=
  requests.filterMap fun request => request.build.toOption

theorem ChangeRequest.built_append (requests others : List ChangeRequest) :
    built (requests ++ others) = built requests ++ built others :=
  List.filterMap_append

end CqlText
