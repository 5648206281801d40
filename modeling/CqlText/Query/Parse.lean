import CqlText.Query.Basic
import CqlText.Template.Fault

/-!
# From templates to queries

Lenient parsing accepts every template; strict parsing gives the same query for a template without
a fault and otherwise reports the first.
-/

namespace CqlText
namespace Query

open Template

/-- The query of a template. -/
def parse (policy : TailPolicy) (template : Text) : Query :=
  ofPieces (pieces policy template)

/-- The query of a template, or its first fault. -/
def parseStrict (policy : TailPolicy) (template : Text) : Except Fault Query :=
  match fault? template with
  | some fault => .error fault
  | none => .ok (parse policy template)

/-- The normalised text of a template, and `bindings` with the template's own behind them. -/
def collect (policy : TailPolicy) (bindings : List Binding) (template : Text) :
    Text × List Binding :=
  ((parse policy template).text, bindings ++ (parse policy template).bindings)

@[simp] theorem parse_nil (policy : TailPolicy) : parse policy [] = empty := by
  simp [parse]

theorem parse_cons (policy : TailPolicy) (first : Char) (tail : Text) :
    parse policy (first :: tail) =
      ofPieces [(Lexeme.read first tail).1.piece policy] ++
        parse policy (Lexeme.read first tail).2 := by
  rw [parse, pieces_cons, parse, ← ofPieces_append, List.singleton_append]

theorem parseStrict_eq_ok_iff {policy : TailPolicy} {template : Text} {query : Query} :
    parseStrict policy template = .ok query ↔
      fault? template = none ∧ parse policy template = query := by
  unfold parseStrict
  split <;> simp_all

theorem parseStrict_eq_error_iff {policy : TailPolicy} {template : Text} {fault : Fault} :
    parseStrict policy template = .error fault ↔ fault? template = some fault := by
  unfold parseStrict
  split <;> simp_all

end Query
end CqlText
