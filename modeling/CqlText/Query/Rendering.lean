import CqlText.Query.Basic

/-!
# Rendering of queries

Rendering copies the text of a query up to each site, lays another text there and goes on behind the
width of a marker. These texts are computed from a marker's ordinal and binding and from a state that
passes from marker to marker. What stands at a site is not looked at; where markers do, they separate
stretches of copied text. The main statements are `weave_marker`, by which the stretches with markers
laid between them are the text of the query, `replaceMarkers_of_stretches?`, by which rendering lays
its texts between the stretches, and `stretches?_ofPieces`, by which every query made up of pieces
has such stretches.
-/

namespace CqlText
namespace Query

/-- Text behind a marker at its start. -/
def behindMarker? (text : Text) : Option Text :=
  if marker.isPrefixOf text then some (text.drop marker.length) else none

/-- The stretches of `text` around markers at `sites`, where `text` starts at a byte offset. There
are none if some site is not the place of a marker. -/
def stretches? : Nat → Text → List Nat → Option (List Text)
  | _, text, [] => some [text]
  | offset, text, site :: sites =>
      if offset ≤ site then
        (Text.cut? (site - offset) text).bind fun parts =>
          (behindMarker? parts.2).bind fun after =>
            (stretches? (site + Text.byteLength marker) after sites).map (parts.1 :: ·)
      else
        none

/-- Stretches with texts laid between neighbours. -/
def weave : List Text → List Text → Text
  | [], _ => []
  | stretch :: _, [] => stretch
  | stretch :: stretches, insert :: inserts => stretch ++ insert ++ weave stretches inserts

/-- The text for a marker with an ordinal and a binding, and the state after it. -/
abbrev Replacement (σ : Type) := Nat → Binding → σ → Text × σ

/-- The texts for the markers of `bindings`, the first of which has a given ordinal. -/
def replacements {σ : Type} (replacement : Replacement σ) :
    Nat → List Binding → σ → List Text × σ
  | _, [], state => ([], state)
  | ordinal, binding :: bindings, state =>
      let first := replacement ordinal binding state
      let others := replacements replacement (ordinal + 1) bindings first.2
      (first.1 :: others.1, others.2)

/-- The text rendered from a byte offset on, and the final state: `rest` is what stands there, and
`marks` are the sites in it with their bindings, the first of which has a given ordinal. -/
def renderFrom {σ : Type} (replacement : Replacement σ) :
    Nat → Nat → Text → List (Nat × Binding) → σ → Option (Text × σ)
  | _, _, rest, [], state => some (rest, state)
  | ordinal, offset, rest, (site, binding) :: marks, state =>
      if offset ≤ site then
        (Text.cut? (site - offset) rest).bind fun parts =>
          (Text.cut? (Text.byteLength marker) parts.2).bind fun behind =>
            let called := replacement ordinal binding state
            (renderFrom replacement (ordinal + 1) (site + Text.byteLength marker) behind.2 marks
              called.2).map fun rendered => (parts.1 ++ called.1 ++ rendered.1, rendered.2)
      else
        none

/-- The text of a query with its markers replaced, and the final state. There is none if the text
cannot be cut in front of or behind a marker, be it there or not. -/
def replaceMarkers {σ : Type} (replacement : Replacement σ) (state : σ) (query : Query) :
    Option (Text × σ) :=
  renderFrom replacement 0 0 query.text (query.sites.zip query.bindings) state

@[simp] theorem behindMarker?_append (text : Text) :
    behindMarker? (marker ++ text) = some text := by
  simp [behindMarker?]

theorem behindMarker?_eq_some_iff {text after : Text} :
    behindMarker? text = some after ↔ text = marker ++ after := by
  constructor
  · intro found
    unfold behindMarker? at found
    split at found
    · next starts =>
      obtain ⟨rest, rfl⟩ := List.isPrefixOf_iff_prefix.mp starts
      simpa using found
    · simp at found
  · rintro rfl
    exact behindMarker?_append after

/-- A first stretch and a marker go before the stretches of the text behind them. -/
theorem stretches?_append (offset : Nat) (stretch after : Text) (sites : List Nat) :
    stretches? offset (stretch ++ marker ++ after) ((offset + Text.byteLength stretch) :: sites) =
      (stretches? (offset + Text.byteLength stretch + Text.byteLength marker) after sites).map
        (stretch :: ·) := by
  rw [stretches?, if_pos (Nat.le_add_right ..), Nat.add_sub_cancel_left, List.append_assoc,
    Text.cut?_append]
  simp

/-- Where there is a site, a first stretch and a marker go before the stretches of the rest. -/
theorem exists_of_stretches?_cons {offset site : Nat} {text : Text} {sites : List Nat}
    {stretches : List Text} (found : stretches? offset text (site :: sites) = some stretches) :
    ∃ stretch after others, text = stretch ++ marker ++ after ∧
      site = offset + Text.byteLength stretch ∧
      stretches? (site + Text.byteLength marker) after sites = some others ∧
      stretches = stretch :: others := by
  rw [stretches?] at found
  split at found
  · next inside =>
    simp only [Option.bind_eq_some_iff, Option.map_eq_some_iff] at found
    obtain ⟨⟨stretch, rest⟩, cut, after, behind, others, othersFound, rfl⟩ := found
    obtain ⟨rfl, width⟩ := Text.cut?_eq_some_iff.mp cut
    obtain rfl := behindMarker?_eq_some_iff.mp behind
    exact ⟨stretch, after, others, (List.append_assoc ..).symm, by omega, othersFound, rfl⟩
  · simp at found

/-- With markers between them, the stretches are the whole text. -/
theorem weave_marker {offset : Nat} {text : Text} {sites : List Nat} {stretches : List Text}
    (found : stretches? offset text sites = some stretches) :
    stretches.length = sites.length + 1 ∧
      weave stretches (List.replicate sites.length marker) = text := by
  induction sites generalizing offset text stretches with
  | nil =>
      obtain rfl : [text] = stretches := by simpa [stretches?] using found
      simp [weave]
  | cons site sites induction =>
      obtain ⟨stretch, after, others, rfl, _, othersFound, rfl⟩ := exists_of_stretches?_cons found
      obtain ⟨length_eq, weave_eq⟩ := induction othersFound
      simp [length_eq, weave, weave_eq, List.replicate_succ]

/-- Put text in front of the first stretch. -/
def extendFirst (front : Text) : List Text → List Text
  | [] => [front]
  | stretch :: stretches => (front ++ stretch) :: stretches

/-- The text copied between the sites of pieces. -/
def copiedStretches : List Piece → List Text
  | [] => [[]]
  | .copied text :: pieces => extendFirst text (copiedStretches pieces)
  | .site _ :: pieces => [] :: copiedStretches pieces

theorem extendFirst_append (front text : Text) (stretches : List Text) :
    extendFirst (front ++ text) stretches = extendFirst front (extendFirst text stretches) := by
  cases stretches <;> simp [extendFirst]

theorem extendFirst_nil (pieces : List Piece) :
    extendFirst [] (copiedStretches pieces) = copiedStretches pieces := by
  cases pieces with
  | nil => rfl
  | cons piece pieces =>
      cases piece with
      | copied text => rw [copiedStretches, ← extendFirst_append, List.nil_append]
      | site binding => rfl

/-- Cutting a text at the sites of its pieces gives what is copied between them. -/
theorem stretches?_siteOffsets (offset : Nat) (front : Text) (pieces : List Piece) :
    stretches? offset (front ++ pieces.flatMap Piece.text)
        (siteOffsets (offset + Text.byteLength front) pieces) =
      some (extendFirst front (copiedStretches pieces)) := by
  induction pieces generalizing offset front with
  | nil => simp [siteOffsets, stretches?, copiedStretches, extendFirst]
  | cons piece pieces induction =>
      cases piece with
      | copied text =>
          rw [copiedStretches, ← extendFirst_append, ← induction, List.flatMap_cons, siteOffsets,
            Text.byteLength_append, Nat.add_assoc, List.append_assoc]
          rfl
      | site binding =>
          have behind := induction (offset + Text.byteLength front + Text.byteLength marker) []
          rw [extendFirst_nil, List.nil_append, Text.byteLength_nil, Nat.add_zero] at behind
          rw [siteOffsets, List.flatMap_cons, ← List.append_assoc]
          refine (stretches?_append offset front _ _).trans ?_
          rw [behind]
          simp [copiedStretches, extendFirst]

/-- The stretches of a query made up of pieces are what is copied between its sites. -/
theorem stretches?_ofPieces (pieces : List Piece) :
    stretches? 0 (ofPieces pieces).text (ofPieces pieces).sites =
      some (copiedStretches pieces) := by
  have found := stretches?_siteOffsets 0 [] pieces
  rwa [extendFirst_nil, List.nil_append, Text.byteLength_nil, Nat.add_zero] at found

/-- A stretch is copied, and the text for the marker behind it goes before the rendered rest. -/
theorem renderFrom_append {σ : Type} (replacement : Replacement σ) (ordinal offset : Nat)
    (stretch after : Text) (binding : Binding) (marks : List (Nat × Binding)) (state : σ) :
    renderFrom replacement ordinal offset (stretch ++ marker ++ after)
        ((offset + Text.byteLength stretch, binding) :: marks) state =
      (renderFrom replacement (ordinal + 1)
        (offset + Text.byteLength stretch + Text.byteLength marker) after marks
        (replacement ordinal binding state).2).map fun rendered =>
          (stretch ++ (replacement ordinal binding state).1 ++ rendered.1, rendered.2) := by
  rw [renderFrom, if_pos (Nat.le_add_right ..), Nat.add_sub_cancel_left, List.append_assoc,
    Text.cut?_append, Option.bind_some, Text.cut?_append, Option.bind_some]

theorem renderFrom_of_stretches? {offset : Nat} {text : Text} {sites : List Nat}
    {stretches : List Text} (found : stretches? offset text sites = some stretches)
    {bindings : List Binding} (paired : sites.length = bindings.length) {σ : Type}
    (replacement : Replacement σ) (ordinal : Nat) (state : σ) :
    renderFrom replacement ordinal offset text (sites.zip bindings) state =
      some (weave stretches (replacements replacement ordinal bindings state).1,
        (replacements replacement ordinal bindings state).2) := by
  induction sites generalizing offset text stretches bindings ordinal state with
  | nil =>
      obtain rfl : [text] = stretches := by simpa [stretches?] using found
      obtain rfl : bindings = [] := List.length_eq_zero_iff.mp paired.symm
      rfl
  | cons site sites induction =>
      obtain ⟨stretch, after, others, rfl, rfl, othersFound, rfl⟩ := exists_of_stretches?_cons found
      cases bindings with
      | nil => simp at paired
      | cons binding bindings =>
          have behind := induction othersFound (Nat.succ.inj paired) (ordinal + 1)
            (replacement ordinal binding state).2
          rw [List.zip_cons_cons, renderFrom_append, behind]
          rfl

/-- A query that is cut into stretches is rendered by laying the replacements between them. -/
theorem replaceMarkers_of_stretches? {query : Query} {stretches : List Text}
    (found : stretches? 0 query.text query.sites = some stretches)
    (paired : query.sites.length = query.bindings.length) {σ : Type}
    (replacement : Replacement σ) (state : σ) :
    query.replaceMarkers replacement state =
      some (weave stretches (replacements replacement 0 query.bindings state).1,
        (replacements replacement 0 query.bindings state).2) :=
  renderFrom_of_stretches? found paired replacement 0 state

/-- A query made up of pieces is rendered by laying the replacements between what is copied. -/
theorem replaceMarkers_ofPieces {σ : Type} (replacement : Replacement σ) (state : σ)
    (pieces : List Piece) :
    (ofPieces pieces).replaceMarkers replacement state =
      let inserts := replacements replacement 0 (ofPieces pieces).bindings state
      some (weave (copiedStretches pieces) inserts.1, inserts.2) :=
  replaceMarkers_of_stretches? (stretches?_ofPieces pieces) (length_sites_ofPieces pieces)
    replacement state

@[simp] theorem length_replacements {σ : Type} (replacement : Replacement σ) (ordinal : Nat)
    (bindings : List Binding) (state : σ) :
    (replacements replacement ordinal bindings state).1.length = bindings.length := by
  induction bindings generalizing ordinal state with
  | nil => rfl
  | cons binding bindings induction => simp [replacements, induction]

end Query
end CqlText
