import CqlText.Template.Lexeme

/-!
# Faults of a template

A lexeme that is left open and an index that is too large are faults. A fault is reported at the
byte offset of its lexeme, and of several faults the first.
-/

namespace CqlText

/-- A malformed part of a template. -/
inductive Fault where
  /-- An expression is never closed. -/
  | openExpression (offset : Nat)
  /-- A string literal is never closed. -/
  | openLiteral (offset : Nat)
  /-- No 64-bit word holds an index. -/
  | indexTooLarge (offset : Nat) (digits : Text)
deriving DecidableEq

namespace Fault

/-- The byte offset of the malformed part. -/
def offset : Fault → Nat
  | openExpression offset => offset
  | openLiteral offset => offset
  | indexTooLarge offset _ => offset

/-- The report of a fault. -/
def message : Fault → String
  | openExpression offset => s!"unterminated expression placeholder at byte {offset}"
  | openLiteral offset => s!"unterminated string literal at byte {offset}"
  | indexTooLarge offset digits =>
      s!"positional parameter index out of range at byte {offset}: ?{String.ofList digits}"

end Fault

/-- The fault of a lexeme that starts at a byte offset. -/
def Lexeme.fault? (offset : Nat) : Lexeme → Option Fault
  | .literal _ false => some (.openLiteral offset)
  | .overflow digits => some (.indexTooLarge offset digits)
  | .expression _ _ false => some (.openExpression offset)
  | _ => none

namespace Template

/-- The first fault among lexemes of which the first starts at a byte offset. -/
def firstFault? (offset : Nat) : List Lexeme → Option Fault
  | [] => none
  | lexeme :: lexemes =>
      match lexeme.fault? offset with
      | some fault => some fault
      | none => firstFault? (offset + Text.byteLength lexeme.source) lexemes

/-- The first fault of a template. -/
def fault? (template : Text) : Option Fault :=
  firstFault? 0 (lexemes template)

theorem firstFault?_cons (offset : Nat) (lexeme : Lexeme) (lexemes : List Lexeme) :
    firstFault? offset (lexeme :: lexemes) =
      (lexeme.fault? offset).or
        (firstFault? (offset + Text.byteLength lexeme.source) lexemes) := by
  rw [firstFault?]
  cases lexeme.fault? offset <;> rfl

theorem firstFault?_append (offset : Nat) (front back : List Lexeme) :
    firstFault? offset (front ++ back) =
      (firstFault? offset front).or
        (firstFault? (offset + Text.byteLength (front.flatMap Lexeme.source)) back) := by
  induction front generalizing offset with
  | nil => simp [firstFault?]
  | cons lexeme front induction =>
      rw [List.cons_append, firstFault?, firstFault?]
      split
      · simp
      · simp [induction, Nat.add_assoc]

end Template
end CqlText
