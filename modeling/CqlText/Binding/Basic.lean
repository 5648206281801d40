import CqlText.Decimal

/-!
# Bindings

A binding describes the value that a placeholder stands for: an argument by its position, an
argument by its name, or the result of an expression.
-/

namespace CqlText

/-- The character that opens a placeholder. -/
inductive Lead where
  /-- A question mark. -/
  | question
  /-- A colon. -/
  | colon
deriving DecidableEq

namespace Lead

/-- The character itself. -/
def symbol : Lead → Char
  | question => '?'
  | colon => ':'

/-- The lead with a given character. -/
def ofSymbol? (symbol : Char) : Option Lead :=
  if symbol = '?' then some question else if symbol = ':' then some colon else none

@[simp] theorem ofSymbol?_symbol (lead : Lead) : ofSymbol? lead.symbol = some lead := by
  cases lead <;> rfl

theorem ofSymbol?_eq_some_iff {symbol : Char} {lead : Lead} :
    ofSymbol? symbol = some lead ↔ symbol = lead.symbol := by
  constructor
  · unfold ofSymbol?
    intro found
    split at found
    · obtain rfl : question = lead := by simpa using found
      assumption
    · split at found
      · obtain rfl : colon = lead := by simpa using found
        assumption
      · simp at found
  · rintro rfl
    exact ofSymbol?_symbol lead

theorem utf8Size_symbol (lead : Lead) : lead.symbol.utf8Size = 1 := by
  cases lead <;> rfl

end Lead

/-- The value that a placeholder stands for. -/
inductive Binding where
  /-- The argument at an index. -/
  | positional (index : UInt64)
  /-- The argument with a name. -/
  | named (name : Text)
  /-- The result of an expression, opened by one of the leads. -/
  | expression (lead : Lead) (source : Text)
deriving DecidableEq

namespace Binding

/-- What distinguishes bindings apart from their content. -/
inductive Kind where
  /-- An argument by its index. -/
  | positional
  /-- An argument by its name. -/
  | named
  /-- An expression opened by one of the leads. -/
  | expression (lead : Lead)
deriving DecidableEq

namespace Kind

/-- All kinds. -/
def all : List Kind :=
  [positional, named, expression .question, expression .colon]

/-- The name of a kind. -/
def label : Kind → Text
  | positional => "Positional".toList
  | named => "Named".toList
  | expression .question => "IndexedExpression".toList
  | expression .colon => "NamedExpression".toList

/-- The kind with a given name. -/
def ofLabel? (label : Text) : Option Kind :=
  all.find? fun kind => kind.label == label

@[simp] theorem ofLabel?_label (kind : Kind) : ofLabel? kind.label = some kind := by
  rcases kind with _ | _ | _ | _ <;> rfl

end Kind

/-- The kind of a binding. -/
def kind : Binding → Kind
  | positional _ => .positional
  | named _ => .named
  | expression lead _ => .expression lead

/-- The index of a positional binding. -/
def index? : Binding → Option UInt64
  | positional index => some index
  | _ => none

/-- The name of a named binding. -/
def name? : Binding → Option Text
  | named name => some name
  | _ => none

/-- The source of an expression. -/
def source? : Binding → Option Text
  | expression _ source => some source
  | _ => none

/-- Whether the value is computed by an expression. -/
def isExpression : Binding → Bool
  | expression _ _ => true
  | _ => false

/-- The binding written as a placeholder. -/
def surface : Binding → Text
  | positional index => '?' :: Decimal.write index.toNat
  | named name => ':' :: name
  | expression lead source => lead.symbol :: '#' :: '{' :: source ++ ['}']

/-- Bindings written as placeholders in a row. -/
def surfaces (bindings : List Binding) : Text :=
  bindings.flatMap surface

end Binding
end CqlText
