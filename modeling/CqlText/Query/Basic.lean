import CqlText.Template.Piece

/-!
# Normalised queries

A normalised query has one and the same marker at the site of every binding. The main statements
give the three parts of a query that is put together from pieces.
-/

namespace CqlText

namespace Query

/-- The text that stands at the site of a binding. -/
def marker : Text :=
  ['?', '_', 'p', 'a', 'r', 'a', 'm', '_', '?']

@[simp] theorem byteLength_marker : Text.byteLength marker = 9 := by decide

end Query

namespace Piece

/-- The text of a piece in a normalised query. -/
def text : Piece → Text
  | copied text => text
  | site _ => Query.marker

/-- The binding of a site. -/
def binding? : Piece → Option Binding
  | copied _ => none
  | site binding => some binding

end Piece

/-- A query with markers in place of its placeholders. -/
@[ext] structure Query where
  /-- The text with its markers. -/
  text : Text
  /-- The bindings, from left to right. -/
  bindings : List Binding
  /-- The byte offset in the text of each binding's marker. -/
  sites : List Nat
deriving DecidableEq

namespace Query

/-- The query without text. -/
def empty : Query :=
  ⟨[], [], []⟩

/-- The offsets of the sites among pieces of which the first starts at a byte offset. -/
def siteOffsets (offset : Nat) : List Piece → List Nat
  | [] => []
  | .copied text :: pieces => siteOffsets (offset + Text.byteLength text) pieces
  | .site _ :: pieces => offset :: siteOffsets (offset + Text.byteLength marker) pieces

/-- The query made up of pieces. -/
def ofPieces (pieces : List Piece) : Query where
  text := pieces.flatMap Piece.text
  bindings := pieces.filterMap Piece.binding?
  sites := siteOffsets 0 pieces

/-- The query that follows another on the same text. -/
def append (left right : Query) : Query where
  text := left.text ++ right.text
  bindings := left.bindings ++ right.bindings
  sites := left.sites ++ right.sites.map (Text.byteLength left.text + ·)

instance : Append Query :=
  ⟨append⟩

/-- Number of bindings. -/
def size (query : Query) : Nat :=
  query.bindings.length

/-- Whether there are no bindings. -/
def isEmpty (query : Query) : Bool :=
  query.bindings.isEmpty

/-- Whether some binding is an expression. -/
def hasExpressions (query : Query) : Bool :=
  query.bindings.any Binding.isExpression

@[simp] theorem text_append (left right : Query) : (left ++ right).text = left.text ++ right.text :=
  rfl

@[simp] theorem bindings_append (left right : Query) :
    (left ++ right).bindings = left.bindings ++ right.bindings := rfl

@[simp] theorem sites_append (left right : Query) :
    (left ++ right).sites = left.sites ++ right.sites.map (Text.byteLength left.text + ·) := rfl

@[simp] theorem empty_append (query : Query) : empty ++ query = query := by
  ext1 <;> simp [empty]

@[simp] theorem append_empty (query : Query) : query ++ empty = query := by
  ext1 <;> simp [empty]

theorem append_assoc (left middle right : Query) :
    left ++ middle ++ right = left ++ (middle ++ right) := by
  ext1 <;> simp [Nat.add_assoc]

theorem siteOffsets_add (shift offset : Nat) (pieces : List Piece) :
    siteOffsets (shift + offset) pieces = (siteOffsets offset pieces).map (shift + ·) := by
  induction pieces generalizing offset with
  | nil => rfl
  | cons piece pieces induction =>
      cases piece with
      | copied text => simp [siteOffsets, Nat.add_assoc, induction]
      | site binding => simp [siteOffsets, Nat.add_assoc, induction]

theorem siteOffsets_append (offset : Nat) (front back : List Piece) :
    siteOffsets offset (front ++ back) =
      siteOffsets offset front ++
        siteOffsets (offset + Text.byteLength (front.flatMap Piece.text)) back := by
  induction front generalizing offset with
  | nil => simp [siteOffsets]
  | cons piece front induction =>
      cases piece with
      | copied text => simp [siteOffsets, Piece.text, Nat.add_assoc, induction]
      | site binding => simp [siteOffsets, Piece.text, Nat.add_assoc, induction]

@[simp] theorem ofPieces_nil : ofPieces [] = empty := rfl

/-- Pieces in a row make up queries in a row. -/
theorem ofPieces_append (front back : List Piece) :
    ofPieces (front ++ back) = ofPieces front ++ ofPieces back := by
  ext1
  · simp [ofPieces]
  · simp [ofPieces]
  · rw [sites_append]
    simp only [ofPieces]
    rw [siteOffsets_append, ← siteOffsets_add, Nat.zero_add, Nat.add_zero]

theorem length_sites_ofPieces (pieces : List Piece) :
    (ofPieces pieces).sites.length = (ofPieces pieces).bindings.length := by
  suffices general : ∀ offset, (siteOffsets offset pieces).length =
      (pieces.filterMap Piece.binding?).length from general 0
  induction pieces with
  | nil => simp [siteOffsets]
  | cons piece pieces induction =>
      cases piece with
      | copied text => simp [siteOffsets, List.filterMap_cons, Piece.binding?, induction]
      | site binding => simp [siteOffsets, Piece.binding?, induction]

end Query
end CqlText
