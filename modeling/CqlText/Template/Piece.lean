import CqlText.Template.Lexeme

/-!
# Pieces of a normalised template

A lexeme either is copied or becomes the site of a binding. An expression that is never closed takes
up the tail of its template; a policy says what becomes of it.
-/

namespace CqlText

/-- What becomes of an expression that is never closed. -/
inductive TailPolicy where
  /-- The rest of the template is its source. -/
  | absorb
  /-- The rest of the template is copied. -/
  | verbatim
deriving DecidableEq

/-- The policy in force unless another is chosen. -/
def TailPolicy.standard : TailPolicy :=
  absorb

/-- What a lexeme contributes to the normalised template. -/
inductive Piece where
  /-- Text taken over unchanged. -/
  | copied (text : Text)
  /-- The place of a placeholder. -/
  | site (binding : Binding)
deriving DecidableEq

/-- The contribution of a lexeme. -/
def Lexeme.piece (policy : TailPolicy) : Lexeme → Piece
  | .positional digits => .site (.positional (UInt64.ofNat (Decimal.value digits)))
  | .named name => .site (.named name)
  | .expression lead source true => .site (.expression lead source)
  | .expression lead source false =>
      match policy with
      | .absorb => .site (.expression lead source)
      | .verbatim => .copied (Lexeme.expression lead source false).source
  | lexeme => .copied lexeme.source

namespace Template

/-- The pieces of a template. -/
def pieces (policy : TailPolicy) (template : Text) : List Piece :=
  (lexemes template).map fun lexeme => lexeme.piece policy

@[simp] theorem pieces_nil (policy : TailPolicy) : pieces policy [] = [] := by
  simp [pieces]

theorem pieces_cons (policy : TailPolicy) (first : Char) (tail : Text) :
    pieces policy (first :: tail) =
      (Lexeme.read first tail).1.piece policy :: pieces policy (Lexeme.read first tail).2 := by
  simp [pieces, lexemes_cons]

end Template
end CqlText
