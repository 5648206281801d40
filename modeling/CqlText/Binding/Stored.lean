import CqlText.Binding.Basic
import CqlText.Json.Reader

/-!
# Stored bindings

Bindings are stored as a list of JSON objects, each with the kind of a binding as its only key and
the content as its value. Kinds alone are stored as a list of their names. What stores them is a
parameter, of which only the laws of `Storage.Lawful` are relied on. A plain storage stands in for it
where the functions here are run.
-/

namespace CqlText

/-- What stores lists of values as texts and loads them again. -/
class Storage (α : Type) where
  /-- The text of a list. -/
  store : List α → Text
  /-- The list of a text, unless it is refused. -/
  load? : Text → Option (List α)

/-- What is relied on of a storage, where `form` is the element of JSON that stands for a value and
`ofForm?` the value that an element stands for. -/
structure Storage.Lawful {α : Type} [Storage α] (form : α → Json.Item)
    (ofForm? : Json.Item → Option α) : Prop where
  /-- A list is stored as the compact text of its elements. Only quotes, backslashes and control
  characters are escaped. -/
  compact : ∃ escape, Json.Escapes escape ∧
    ∀ values : List α, store values = Json.compact escape (values.map form)
  /-- From every text of a list of elements that stand for values these values are loaded. -/
  reads : ∀ {text : Text} {items : List Json.Item} {values : List α}, Json.IsText text items →
    items.mapM ofForm? = some values → load? text = some values

namespace Binding

/-- The element that stands for a kind: its name. -/
def Kind.item (kind : Kind) : Json.Item :=
  .scalar (.text kind.label)

/-- The kind that an element stands for. A kind may also stand as the only key of an object, with
null as its value. -/
def Kind.ofItem? : Json.Item → Option Kind
  | .scalar (.text label) => ofLabel? label
  | .member label .null => ofLabel? label
  | _ => none

/-- The content of a binding. -/
def content : Binding → Json.Scalar
  | positional index => .number index
  | named name => .text name
  | expression _ source => .text source

/-- The element that stands for a binding: its content under the name of its kind. -/
def item (binding : Binding) : Json.Item :=
  .member binding.kind.label binding.content

/-- The binding of a kind with a content. -/
def ofContent? : Kind → Json.Scalar → Option Binding
  | .positional, .number index => some (positional index)
  | .named, .text name => some (named name)
  | .expression lead, .text source => some (expression lead source)
  | _, _ => none

/-- The binding that an element stands for. -/
def ofItem? : Json.Item → Option Binding
  | .member label content => (Kind.ofLabel? label).bind fun kind => ofContent? kind content
  | _ => none

/-- The text that kinds are stored as. -/
def Kind.store [Storage Kind] (kinds : List Kind) : Text :=
  Storage.store kinds

/-- The kinds that are loaded from a text. -/
def Kind.load? [Storage Kind] (text : Text) : Option (List Kind) :=
  Storage.load? text

/-- The text that bindings are stored as. -/
def store [Storage Binding] (bindings : List Binding) : Text :=
  Storage.store bindings

/-- The bindings that are loaded from a text. -/
def load? [Storage Binding] (text : Text) : Option (List Binding) :=
  Storage.load? text

end Binding

/-! ## A plain storage -/

/-- A storage by compact texts and the reader for lists of JSON. -/
abbrev Json.plainStorage {α : Type} (form : α → Item) (ofForm? : Item → Option α) :
    Storage α where
  store values := compact escape (values.map form)
  load? text := (read? text).bind fun items => items.mapM ofForm?

instance : Storage Binding :=
  Json.plainStorage Binding.item Binding.ofItem?

instance : Storage Binding.Kind :=
  Json.plainStorage Binding.Kind.item Binding.Kind.ofItem?

end CqlText
