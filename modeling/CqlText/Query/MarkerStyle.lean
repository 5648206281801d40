import CqlText.Query.Rendering

/-!
# Styles of markers

The ways in which a query's markers are written for a consumer: one text for all, numbered, or
derived from the bindings.
-/

namespace CqlText

/-- A way of writing markers. -/
inductive MarkerStyle where
  /-- The same text everywhere. -/
  | fixed (text : Text)
  /-- A label followed by the ordinal of the marker. -/
  | ordinal (label : Text)
  /-- The placeholder of the binding. -/
  | surface
  /-- The placeholder of a named binding, and a `?` for any other. -/
  | named
  /-- The ordinal and the kind of the binding. -/
  | kind
  /-- A number shared by equal bindings. -/
  | distinct
deriving DecidableEq

namespace MarkerStyle

/-- Number a binding among the distinct ones seen so far. -/
def number (binding : Binding) (seen : List Binding) : Nat × List Binding :=
  match seen.idxOf? binding with
  | some position => (position, seen)
  | none => (seen.length, seen ++ [binding])

/-- How a style writes a marker; the state holds the distinct bindings seen so far. -/
def replacement : MarkerStyle → Query.Replacement (List Binding)
  | fixed text, _, _, seen => (text, seen)
  | ordinal label, position, _, seen => (label ++ Decimal.write position, seen)
  | surface, _, binding, seen => (binding.surface, seen)
  | named, _, .named name, seen => ((Binding.named name).surface, seen)
  | named, _, _, seen => (['?'], seen)
  | kind, position, binding, seen =>
      ('<' :: Decimal.write position ++ ':' :: binding.kind.label ++ ['>'], seen)
  | distinct, _, binding, seen =>
      let numbered := number binding seen
      ('$' :: Decimal.write numbered.1, numbered.2)

end MarkerStyle

/-- The text of a query with its markers written in a style. -/
def Query.render (style : MarkerStyle) (query : Query) : Option Text :=
  (query.replaceMarkers style.replacement []).map Prod.fst

end CqlText
