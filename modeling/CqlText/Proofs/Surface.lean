import CqlText.Proofs.Fit
import CqlText.Query.MarkerStyle
import CqlText.Query.Parse

/-!
# Bindings as placeholders

A binding is well formed if its placeholder is a lexeme of its own. The bindings that parsing gives
are all well formed, and a query is rendered by writing one text after another, in turn for each
piece.
-/

namespace CqlText

theorem Decimal.isNumeral_write (number : Nat) : IsNumeral (write number) :=
  ⟨write_ne_nil number, fun _ member => isDigit_of_mem_write member⟩

namespace Binding

/-- The placeholder of a binding can be read. -/
def WellFormed : Binding → Prop
  | positional index => index.toNat < UInt64.size
  | named name => Text.IsName name
  | expression _ source => '}' ∉ source

instance (binding : Binding) : Decidable binding.WellFormed :=
  match binding with
  | positional index => inferInstanceAs (Decidable (index.toNat < UInt64.size))
  | named name => inferInstanceAs (Decidable (Text.IsName name))
  | expression _ source => inferInstanceAs (Decidable ('}' ∉ source))

/-- The placeholder of a binding as a lexeme. -/
def lexeme : Binding → Lexeme
  | positional index => .positional (Decimal.write index.toNat)
  | named name => .named name
  | expression lead source => .expression lead source true

@[simp] theorem source_lexeme (binding : Binding) : binding.lexeme.source = binding.surface := by
  cases binding <;> simp [lexeme, Lexeme.source, surface]

@[simp] theorem piece_lexeme (policy : TailPolicy) (binding : Binding) :
    binding.lexeme.piece policy = .site binding := by
  cases binding <;> simp [lexeme, Lexeme.piece]

end Binding

namespace Lexeme

theorem piece_eq_copied {policy : TailPolicy} {lexeme : Lexeme} {text : Text}
    (piece_eq : lexeme.piece policy = .copied text) : text = lexeme.source := by
  rcases lexeme with _ | _ | _ | _ | _ | ⟨_, _, _ | _⟩ <;> cases policy <;>
    simp_all [piece]

theorem piece_eq_site {policy : TailPolicy} {lexeme : Lexeme} {binding : Binding}
    (piece_eq : lexeme.piece policy = .site binding) :
    (∃ digits, lexeme = .positional digits ∧
        binding = .positional (UInt64.ofNat (Decimal.value digits))) ∨
      (∃ name, lexeme = .named name ∧ binding = .named name) ∨
      ∃ lead source closed, lexeme = .expression lead source closed ∧
        binding = .expression lead source := by
  cases lexeme with
  | positional digits => exact .inl ⟨digits, rfl, by simpa [piece] using piece_eq.symm⟩
  | named name => exact .inr (.inl ⟨name, rfl, by simpa [piece] using piece_eq.symm⟩)
  | expression lead body closed =>
      refine .inr (.inr ⟨lead, body, closed, rfl, ?_⟩)
      cases closed <;> cases policy <;> simpa [piece] using piece_eq.symm
  | _ => simp [piece] at piece_eq

theorem exists_source_of_piece_eq_site {policy : TailPolicy} {lexeme : Lexeme} {binding : Binding}
    (piece_eq : lexeme.piece policy = .site binding) :
    ∃ lead tail, lexeme.source = Lead.symbol lead :: tail := by
  obtain ⟨digits, rfl, _⟩ | ⟨name, rfl, _⟩ | ⟨lead, body, closed, rfl, _⟩ := piece_eq_site piece_eq
  · exact ⟨.question, digits, rfl⟩
  · exact ⟨.colon, name, rfl⟩
  · exact ⟨lead, _, rfl⟩

theorem wellFormed_of_fits {policy : TailPolicy} {lexeme : Lexeme} {rest : Text} {binding : Binding}
    (fits : lexeme.Fits rest) (piece_eq : lexeme.piece policy = .site binding) :
    binding.WellFormed := by
  obtain ⟨digits, rfl, rfl⟩ | ⟨name, rfl, rfl⟩ | ⟨lead, body, closed, rfl, rfl⟩ :=
    piece_eq_site piece_eq
  · exact (UInt64.ofNat (Decimal.value digits)).toNat_lt
  · exact fits.1
  · exact fits.1

end Lexeme

namespace Query

/-- The bindings of a template are well formed. -/
theorem wellFormed_of_mem_parse {policy : TailPolicy} {template : Text} {binding : Binding}
    (member : binding ∈ (parse policy template).bindings) : binding.WellFormed := by
  obtain ⟨piece, pieceMember, found⟩ := List.mem_filterMap.mp member
  obtain ⟨lexeme, lexemeMember, rfl⟩ := List.mem_map.mp pieceMember
  obtain ⟨rest, fits⟩ := Template.fits_of_mem_lexemes lexemeMember
  cases piece_eq : lexeme.piece policy with
  | copied text => simp [piece_eq, Piece.binding?] at found
  | site other =>
      obtain rfl : other = binding := by simpa [piece_eq, Piece.binding?] using found
      exact Lexeme.wellFormed_of_fits fits piece_eq

theorem ofPieces_cons (piece : Piece) (pieces : List Piece) :
    ofPieces (piece :: pieces) = ofPieces [piece] ++ ofPieces pieces :=
  ofPieces_append [piece] pieces

theorem ofPieces_copied (text : Text) : ofPieces [.copied text] = ⟨text, [], []⟩ := by
  simp [ofPieces, Piece.text, Piece.binding?, siteOffsets]

theorem ofPieces_site (binding : Binding) :
    ofPieces [.site binding] = ⟨marker, [binding], [0]⟩ := by
  simp [ofPieces, Piece.text, Piece.binding?, siteOffsets]

theorem append_copied (query : Query) (text : Text) :
    query ++ ofPieces [.copied text] = { query with text := query.text ++ text } := by
  rw [ofPieces_copied]
  ext1 <;> simp

theorem append_site (query : Query) (binding : Binding) :
    query ++ ofPieces [.site binding] =
      { text := query.text ++ marker
        bindings := query.bindings ++ [binding]
        sites := query.sites ++ [Text.byteLength query.text] } := by
  rw [ofPieces_site]
  ext1 <;> simp

theorem copiedStretches_ne_nil (pieces : List Piece) : copiedStretches pieces ≠ [] := by
  cases pieces with
  | nil => simp [copiedStretches]
  | cons piece pieces =>
      cases piece with
      | copied text => cases stretches : copiedStretches pieces <;>
          simp [copiedStretches, stretches, extendFirst]
      | site binding => simp [copiedStretches]

theorem weave_extendFirst (text : Text) {stretches : List Text} (ne_nil : stretches ≠ [])
    (inserts : List Text) :
    weave (extendFirst text stretches) inserts = text ++ weave stretches inserts := by
  obtain ⟨stretch, others, rfl⟩ := List.exists_cons_of_ne_nil ne_nil
  cases inserts <;> simp [extendFirst, weave]

@[simp] theorem weave_copied (text : Text) (pieces : List Piece) (inserts : List Text) :
    weave (copiedStretches (.copied text :: pieces)) inserts =
      text ++ weave (copiedStretches pieces) inserts :=
  weave_extendFirst text (copiedStretches_ne_nil pieces) inserts

@[simp] theorem weave_site (binding : Binding) (pieces : List Piece) (insert : Text)
    (inserts : List Text) :
    weave (copiedStretches (.site binding :: pieces)) (insert :: inserts) =
      insert ++ weave (copiedStretches pieces) inserts := by
  simp [copiedStretches, weave]

/-- Lay given texts at the markers, one after another. -/
def inTurn (texts : List Text) : Replacement Unit :=
  fun ordinal _ state => ((texts[ordinal]?).getD [], state)

theorem replacements_inTurn (front texts : List Text) (bindings : List Binding)
    (length_eq : texts.length = bindings.length) :
    replacements (inTurn (front ++ texts)) front.length bindings () = (texts, ()) := by
  induction bindings generalizing front texts with
  | nil =>
      obtain rfl := List.length_eq_zero_iff.mp length_eq
      rfl
  | cons binding bindings induction =>
      cases texts with
      | nil => simp at length_eq
      | cons text texts =>
          have behind := induction (front ++ [text]) texts (by simpa using length_eq)
          rw [List.length_append, List.length_singleton, List.append_assoc,
            List.singleton_append] at behind
          simp only [replacements, inTurn] at behind ⊢
          simp [behind]

/-- Replacements that look at the binding alone leave the state as it is. -/
theorem replacements_of_binding {σ : Type} {replacement : Replacement σ} {write : Binding → Text}
    (alone : ∀ ordinal binding state, replacement ordinal binding state = (write binding, state))
    (ordinal : Nat) (bindings : List Binding) (state : σ) :
    replacements replacement ordinal bindings state = (bindings.map write, state) := by
  induction bindings generalizing ordinal with
  | nil => rfl
  | cons binding bindings induction => simp [replacements, alone, induction]

theorem replacements_surface (ordinal : Nat) (bindings seen : List Binding) :
    replacements MarkerStyle.surface.replacement ordinal bindings seen =
      (bindings.map Binding.surface, seen) :=
  replacements_of_binding (fun _ _ _ => rfl) ordinal bindings seen

theorem replacements_fixed (mark : Text) (ordinal : Nat) (bindings seen : List Binding) :
    replacements (MarkerStyle.fixed mark).replacement ordinal bindings seen =
      (bindings.map fun _ => mark, seen) :=
  replacements_of_binding (fun _ _ _ => rfl) ordinal bindings seen

/-- With one text for all markers, that text is laid between the stretches of a query. -/
theorem render_fixed_of_stretches? {query : Query} {stretches : List Text}
    (found : stretches? 0 query.text query.sites = some stretches)
    (paired : query.sites.length = query.bindings.length) (mark : Text) :
    query.render (.fixed mark) =
      some (weave stretches (List.replicate query.bindings.length mark)) := by
  rw [render, replaceMarkers_of_stretches? found paired, replacements_fixed, List.map_const']
  rfl

end Query
end CqlText
