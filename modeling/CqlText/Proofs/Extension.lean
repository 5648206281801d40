import CqlText.Proofs.Obtainable
import CqlText.Proofs.OpenTail

/-!
# Templates carried on

Text behind a template can change how its end is read: a literal or an expression that was open may
close, a lone lead may become a placeholder, and digits or a name may go on. The main statements are
`Lexeme.Fits.extend`, by which a lexeme that is read differently is the last placeholder or has none
behind it, and from it `Query.exists_startAlike`, by which two queries start with the same pieces.
-/

namespace CqlText

namespace Lexeme

/-- Whether a lexeme is a placeholder that text behind it can carry on. -/
def isExtensible (policy : TailPolicy) : Lexeme → Bool
  | positional _ => true
  | named _ => true
  | expression _ _ closed => policy == .absorb && !closed
  | _ => false

/-- A lexeme without a lead is copied. -/
theorem piece_of_no_lead {lexeme : Lexeme} (noLead : ∀ lead, Lead.symbol lead ∉ lexeme.source)
    (policy : TailPolicy) : lexeme.piece policy = .copied lexeme.source := by
  cases piece_eq : lexeme.piece policy with
  | copied text => rw [piece_eq_copied piece_eq]
  | site binding =>
      obtain ⟨lead, tail, source_eq⟩ := exists_source_of_piece_eq_site piece_eq
      exact absurd (source_eq ▸ List.mem_cons_self) (noLead lead)

/-- A lexeme stays if the text behind it goes on, unless it is a placeholder at the end, or is
copied and has no lead behind it. -/
theorem Fits.extend {lexeme : Lexeme} {rest : Text} (fits : lexeme.Fits rest) (further : Text)
    (policy : TailPolicy) :
    lexeme.Fits (rest ++ further) ∨ (lexeme.isExtensible policy = true ∧ rest = []) ∨
      (lexeme.piece policy = .copied lexeme.source ∧ ∀ lead, Lead.symbol lead ∉ rest) := by
  cases lexeme with
  | character symbol =>
      by_cases short : rest = [] ∨ rest = ['#']
      · refine .inr (.inr ⟨rfl, ?_⟩)
        rintro (_ | _) <;> rcases short with rfl | rfl <;> decide
      · rw [not_or] at short
        refine .inl ⟨fits.unquoted, ?_⟩
        intro lead same
        obtain ⟨unopened, stops⟩ := fits.unopened lead same
        exact ⟨body?_append_eq_none_of unopened (absurd · short.1) (absurd · short.2),
          Text.stops_append_of_ne_nil stops short.1 further⟩
  | literal content closed =>
      cases closed with
      | true => exact .inl ⟨fits.1, by simp⟩
      | false =>
          obtain rfl := fits.2 rfl
          exact .inr (.inr ⟨rfl, by simp⟩)
  | overflow digits =>
      obtain ⟨numeral, tooLarge, after, rfl, stops⟩ := fits
      by_cases last : after = []
      · subst last
        refine .inr (.inr ⟨rfl, ?_⟩)
        intro lead member
        rw [List.append_nil] at member
        have digit := numeral.isDigit _ member
        rw [Lead.outside_isDigit lead] at digit
        contradiction
      · exact .inl ⟨numeral, tooLarge, after ++ further, List.append_assoc ..,
          Text.stops_append_of_ne_nil stops last further⟩
  | positional digits =>
      by_cases last : rest = []
      · exact .inr (.inl ⟨rfl, last⟩)
      · exact .inl ⟨fits.1, fits.2.1, Text.stops_append_of_ne_nil fits.2.2 last further⟩
  | named name =>
      by_cases last : rest = []
      · exact .inr (.inl ⟨rfl, last⟩)
      · exact .inl ⟨fits.1, Text.stops_append_of_ne_nil fits.2 last further⟩
  | expression lead body closed =>
      cases closed with
      | true => exact .inl ⟨fits.1, by simp⟩
      | false =>
          obtain rfl := fits.2 rfl
          cases policy with
          | absorb => exact .inr (.inl ⟨rfl, rfl⟩)
          | verbatim => exact .inr (.inr ⟨rfl, by simp⟩)

end Lexeme

namespace Template

/-- Whether a template ends with a placeholder that can be carried on. -/
def endsExtensible (policy : TailPolicy) (template : Text) : Bool :=
  (lexemes template).getLast?.any (Lexeme.isExtensible policy)

/-- Of the lexemes of a template, all are kept behind which there are placeholders, whatever text
goes on behind them. -/
theorem exists_kept {lexemes : List Lexeme} (fit : Fit lexemes []) (further : Text)
    (policy : TailPolicy) :
    ∃ kept lost, lexemes = kept ++ lost ∧ Fit kept (lost.flatMap Lexeme.source ++ further) ∧
      ((∀ lexeme ∈ lost, lexeme.piece policy = .copied lexeme.source) ∨
        ∃ lexeme, lost = [lexeme] ∧ lexeme.isExtensible policy = true) := by
  induction lexemes with
  | nil => exact ⟨[], [], rfl, trivial, .inl (by simp)⟩
  | cons lexeme lexemes induction =>
      obtain ⟨fits, others⟩ := fit
      rw [List.append_nil] at fits
      -- The row is split in front of the first lexeme that may be read differently.
      obtain stays | ⟨extensible, last⟩ | ⟨copied, noLead⟩ := fits.extend further policy
      · obtain ⟨kept, lost, rfl, keptFit, few⟩ := induction others
        refine ⟨lexeme :: kept, lost, rfl, ⟨?_, keptFit⟩, few⟩
        rwa [List.flatMap_append, List.append_assoc] at stays
      · obtain rfl := eq_nil_of_flatMap_source last
        exact ⟨[], [lexeme], rfl, trivial, .inr ⟨lexeme, rfl, extensible⟩⟩
      · refine ⟨[], lexeme :: lexemes, rfl, trivial, .inl ?_⟩
        refine List.forall_mem_cons.mpr ⟨copied, ?_⟩
        intro other member
        refine Lexeme.piece_of_no_lead ?_ policy
        intro lead inside
        exact noLead lead (List.mem_flatMap.mpr ⟨other, member, inside⟩)

end Template

namespace Query

theorem ofPieces_of_copied {policy : TailPolicy} {lexemes : List Lexeme}
    (copied : ∀ lexeme ∈ lexemes, lexeme.piece policy = .copied lexeme.source) :
    (ofPieces (lexemes.map (Lexeme.piece policy))).bindings = [] ∧
      (ofPieces (lexemes.map (Lexeme.piece policy))).sites = [] := by
  have bindings_eq : (ofPieces (lexemes.map (Lexeme.piece policy))).bindings = [] := by
    refine List.filterMap_eq_nil_iff.mpr ?_
    intro piece member
    obtain ⟨lexeme, lexemeMember, rfl⟩ := List.mem_map.mp member
    rw [copied lexeme lexemeMember, Piece.binding?]
  refine ⟨bindings_eq, List.length_eq_zero_iff.mp ?_⟩
  rw [length_sites_ofPieces, bindings_eq, List.length_nil]

/-- The query of a lexeme holds no binding, or one whose marker starts it. -/
theorem ofPieces_lexeme (policy : TailPolicy) (lexeme : Lexeme) :
    ((ofPieces [lexeme.piece policy]).bindings = [] ∧ (ofPieces [lexeme.piece policy]).sites = []) ∨
      ∃ binding, (ofPieces [lexeme.piece policy]).bindings = [binding] ∧
        (ofPieces [lexeme.piece policy]).sites = [0] := by
  cases lexeme.piece policy with
  | copied text =>
      rw [ofPieces_copied]
      exact .inl ⟨rfl, rfl⟩
  | site binding =>
      rw [ofPieces_site]
      exact .inr ⟨binding, rfl, rfl⟩

/-- Two queries start with the same pieces. Beyond them the first has no binding, or one whose
marker stands directly behind them. -/
structure StartAlike (query other : Query) (pieces : List Piece) (lost later : Query) : Prop where
  /-- The first query. -/
  first : query = ofPieces pieces ++ lost
  /-- The second query. -/
  second : other = ofPieces pieces ++ later
  /-- What the first has beyond the pieces. -/
  few : (lost.bindings = [] ∧ lost.sites = []) ∨
    ∃ binding, lost.bindings = [binding] ∧ lost.sites = [0]

/-- The query of a template and that of one that goes on from it start alike, and the first has no
binding beyond what they share unless the template ends with a placeholder that can be carried
on. -/
theorem exists_startAlike (policy : TailPolicy) (template further : Text) :
    ∃ pieces lost later,
      StartAlike (parse policy template) (parse policy (template ++ further)) pieces lost later ∧
        (Template.endsExtensible policy template = false →
          lost.bindings = [] ∧ lost.sites = []) := by
  obtain ⟨kept, lost, whole, fit, few⟩ :=
    Template.exists_kept (Template.fit_lexemes template) further policy
  have first : parse policy template =
      ofPieces (kept.map (Lexeme.piece policy)) ++ ofPieces (lost.map (Lexeme.piece policy)) := by
    rw [parse, Template.pieces, whole, List.map_append, ofPieces_append]
  have source_eq : template = kept.flatMap Lexeme.source ++ lost.flatMap Lexeme.source := by
    rw [← List.flatMap_append, ← whole, Template.lexemes_source]
  have read := Template.lexemes_append fit
  rw [← List.append_assoc, ← source_eq] at read
  have second := parse_behind read policy
  obtain copied | ⟨lexeme, rfl, extensible⟩ := few
  · have nothing := ofPieces_of_copied copied
    exact ⟨_, _, _, ⟨first, second, .inl nothing⟩, fun _ => nothing⟩
  · refine ⟨_, _, _, ⟨first, second, ofPieces_lexeme policy lexeme⟩, ?_⟩
    intro complete
    simp [Template.endsExtensible, whole, extensible] at complete

namespace StartAlike

variable {query other : Query} {pieces : List Piece} {lost later : Query}
  (alike : StartAlike query other pieces lost later)

include alike

theorem prefix_of_nil (nothing : lost.bindings = [] ∧ lost.sites = []) :
    query.bindings <+: other.bindings ∧ query.sites <+: other.sites := by
  obtain ⟨rfl, rfl, _⟩ := alike
  rw [bindings_append, sites_append, nothing.1, nothing.2]
  exact ⟨by simp, by simp⟩

theorem dropLast_prefix :
    query.bindings.dropLast <+: other.bindings ∧ query.sites.dropLast <+: other.sites := by
  obtain nothing | ⟨binding, bindings_eq, sites_eq⟩ := alike.few
  · obtain ⟨bindings, sites⟩ := alike.prefix_of_nil nothing
    exact ⟨(List.dropLast_prefix _).trans bindings, (List.dropLast_prefix _).trans sites⟩
  · obtain ⟨rfl, rfl, _⟩ := alike
    rw [bindings_append, sites_append, bindings_eq, sites_eq]
    exact ⟨by simp, by simp⟩

/-- Markers of the first query stand within the pieces that both start with, or directly behind. -/
theorem site_le {site : Nat} (member : site ∈ query.sites) :
    site ≤ Text.byteLength (ofPieces pieces).text := by
  obtain ⟨rfl, _, few⟩ := alike
  rw [sites_append, List.mem_append] at member
  obtain inside | behind := member
  · obtain ⟨front, back, text_eq, rfl⟩ := exists_of_mem_sites inside
    rw [text_eq, List.append_assoc, Text.byteLength_append]
    exact Nat.le_add_right ..
  · obtain ⟨_, sites_eq⟩ | ⟨binding, _, sites_eq⟩ := few
    · simp [sites_eq] at behind
    · rw [sites_eq] at behind
      have site_eq : site = Text.byteLength (ofPieces pieces).text := by simpa using behind
      exact Nat.le_of_eq site_eq

/-- Within the pieces that both start with, the texts are the same. -/
theorem eq_of_width_eq {front front' back back' : Text} (whole : query.text = front ++ back)
    (whole' : other.text = front' ++ back') (width : Text.byteLength front = Text.byteLength front')
    (inside : Text.byteLength front ≤ Text.byteLength (ofPieces pieces).text) : front = front' := by
  obtain ⟨rfl, rfl, _⟩ := alike
  obtain ⟨middle, common, _⟩ := Text.exists_append_of_width_le whole.symm inside
  obtain ⟨middle', common', _⟩ := Text.exists_append_of_width_le whole'.symm (width ▸ inside)
  exact Text.eq_of_append_eq (common.symm.trans common') width

end StartAlike

theorem marker_at_site {policy : TailPolicy} {template : Text} {site : Nat}
    (member : site ∈ (parse policy template).sites) :
    ∃ front back, (parse policy template).text = front ++ marker ++ back ∧
      Text.byteLength front = site :=
  exists_of_mem_sites member

/-- Text behind a template takes away its last placeholder at most, and only if that ends the
template and can be carried on; up to each marker that is kept, the text of its query is kept
too. -/
theorem extension_keeps_complete (policy : TailPolicy) (template further : Text) :
    ((parse policy template).bindings.dropLast <+:
          (parse policy (template ++ further)).bindings ∧
        (parse policy template).sites.dropLast <+: (parse policy (template ++ further)).sites) ∧
      (Template.endsExtensible policy template = false →
        (parse policy template).bindings <+: (parse policy (template ++ further)).bindings ∧
          (parse policy template).sites <+: (parse policy (template ++ further)).sites) ∧
      ∀ site ∈ (parse policy template).sites,
        site ∈ (parse policy (template ++ further)).sites →
          ∃ front back, (parse policy template).text = front ++ marker ++ back ∧
            Text.byteLength front = site ∧
            front ++ marker <+: (parse policy (template ++ further)).text := by
  obtain ⟨pieces, lost, later, alike, complete⟩ := exists_startAlike policy template further
  refine ⟨alike.dropLast_prefix, fun ends => alike.prefix_of_nil (complete ends), ?_⟩
  intro site member kept
  have inside := alike.site_le member
  obtain ⟨front, back, whole, rfl⟩ := marker_at_site member
  obtain ⟨front', back', whole', width⟩ := marker_at_site kept
  refine ⟨front, back, whole, rfl, ?_⟩
  rw [List.append_assoc] at whole whole'
  -- Both texts hold a marker at the site, and in front of it they are still the same.
  obtain rfl := alike.eq_of_width_eq whole whole' width.symm inside
  exact ⟨back', by rw [whole', List.append_assoc]⟩

/-- An index that becomes too large, and a literal that is closed in front of further
placeholders. -/
theorem extension_keeps_complete_index :
    (parse .absorb "é:a?1".toList).bindings = [.named ['a'], .positional 1] ∧
      (parse .absorb ("é:a?1".toList ++ "9999999999999999999:b".toList)).bindings =
        [.named ['a'], .named ['b']] ∧
      (2 ∈ (parse .absorb "é:a?1".toList).sites ∧
        2 ∈ (parse .absorb ("é:a?1".toList ++ "9999999999999999999:b".toList)).sites ∧
        ∃ front back, (parse .absorb "é:a?1".toList).text = front ++ marker ++ back ∧
          Text.byteLength front = 2 ∧
          front ++ marker <+:
            (parse .absorb ("é:a?1".toList ++ "9999999999999999999:b".toList)).text) ∧
      Template.endsExtensible .absorb "é:a'?1".toList = false ∧
      (parse .absorb "é:a'?1".toList).sites <+:
        (parse .absorb ("é:a'?1".toList ++ "9':b".toList)).sites := by
  obtain ⟨_, _, keptText⟩ :=
    extension_keeps_complete .absorb "é:a?1".toList "9999999999999999999:b".toList
  obtain ⟨_, complete, _⟩ := extension_keeps_complete .absorb "é:a'?1".toList "9':b".toList
  have member : 2 ∈ (parse .absorb "é:a?1".toList).sites := by decide +kernel
  have kept : 2 ∈ (parse .absorb ("é:a?1".toList ++ "9999999999999999999:b".toList)).sites := by
    decide +kernel
  have ends : Template.endsExtensible .absorb "é:a'?1".toList = false := by decide +kernel
  exact ⟨by decide +kernel, by decide +kernel, ⟨member, kept, keptText 2 member kept⟩, ends,
    (complete ends).2⟩

end Query
end CqlText
