import CqlText.Fields
import CqlText.Template.Piece
import CqlText.Text.Blank

/-!
# Options

Options are a text of entries `key=value` separated by semicolons. The first entry that is bad
decides the error; otherwise the last entry that sets the policy decides the policy. Keys and values
are compared without regard to the case of ASCII letters.
-/

namespace CqlText

namespace Text

/-- Text with its ASCII letters in lower case. Letters beyond ASCII are left as they are: the keys
of options cannot tell whether these are lowered too (`Options.readEntry_of_lowered`). -/
def lower (text : Text) : Text :=
  text.map Char.toLower

/-- Whether `text` is the keyword `word`, given in lower case, in any mixture of cases. -/
def spells (text word : Text) : Bool :=
  lower text == word

theorem spells_iff {text word : Text} : spells text word = true ↔ lower text = word := by
  simp [spells]

end Text

/-- Why an options text is refused. -/
inductive OptionError where
  /-- An entry has no equals sign. -/
  | notAPair (entry : Text)
  /-- An entry sets a known key to an unknown value. -/
  | badValue (key value : Text)
deriving DecidableEq

/-- The report of an error. -/
def OptionError.message : OptionError → String
  | notAPair entry => s!"invalid option: {String.ofList entry}"
  | badValue key value => s!"invalid value for {String.ofList key}: {String.ofList value}"

namespace TailPolicy

/-- The keys that set the policy. -/
def keys : List Text :=
  ["unterminated expression".toList, "unterminated_expression".toList]

/-- The policy that a value names, in any letter case. -/
def ofValue? (value : Text) : Option TailPolicy :=
  if Text.spells value "absorb".toList then
    some absorb
  else if Text.spells value "verbatim".toList then
    some verbatim
  else
    none

/-- The name of a policy. -/
def label : TailPolicy → Text
  | absorb => "absorb".toList
  | verbatim => "verbatim".toList

end TailPolicy

namespace Options

/-- The entries of an options text, trimmed, without the empty ones. -/
def entries (options : Text) : List Text :=
  ((Fields.split ';' options).map Text.trim).filter (· ≠ [])

/-- The policy that an entry sets, if it sets one. -/
def readEntry (entry : Text) : Except OptionError (Option TailPolicy) :=
  let parts := Text.partAt '=' entry
  if parts.marked then
    let key := Text.lower (Text.trim parts.before)
    let value := Text.trim parts.after
    if key ∈ TailPolicy.keys then
      match TailPolicy.ofValue? value with
      | some policy => .ok (some policy)
      | none => .error (.badValue key value)
    else
      .ok none
  else
    .error (.notAPair entry)

/-- The policy in force after `entries`, where `policy` was in force before. -/
def readEntries (policy : TailPolicy) : List Text → Except OptionError TailPolicy
  | [] => .ok policy
  | entry :: entries =>
      match readEntry entry with
      | .error error => .error error
      | .ok setting => readEntries (setting.getD policy) entries

/-- The policy that an options text sets; the standard one unless it says otherwise. -/
def read (options : Text) : Except OptionError TailPolicy :=
  readEntries .standard (entries options)

theorem entries_append (left right : Text) :
    entries (left ++ ';' :: right) = entries left ++ entries right := by
  simp [entries, Fields.split_append]

theorem readEntries_append (policy : TailPolicy) (front back : List Text) :
    readEntries policy (front ++ back) =
      match readEntries policy front with
      | .error error => .error error
      | .ok policy => readEntries policy back := by
  induction front generalizing policy with
  | nil => rfl
  | cons entry front induction =>
      rw [List.cons_append, readEntries, readEntries]
      cases readEntry entry with
      | error error => rfl
      | ok setting => exact induction _

end Options
end CqlText
