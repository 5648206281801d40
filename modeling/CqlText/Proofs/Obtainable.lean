import CqlText.Proofs.Slice
import CqlText.Proofs.Surface
import CqlText.Session

/-!
# Queries that can be obtained

Whatever is parsed and rendered in whatever order, each query has its markers apart from one another
at the sites it lists, one for each binding. The main statements are `Obtainable.wellFormed`, which
says so, `exists_stretches`, by which such a text is cut around its markers, and
`Session.obtainable_run`, by which a session knows no other queries.
-/

namespace CqlText

namespace Query

/-- The sites of a query are the places of markers apart from one another, one for each binding, and
the bindings are well formed. -/
structure WellFormed (query : Query) : Prop where
  /-- Each binding has a site. -/
  paired : query.sites.length = query.bindings.length
  /-- A marker ends before the next one starts. -/
  spaced : query.sites.Pairwise fun earlier later => earlier + 9 ≤ later
  /-- At each site there is a marker. -/
  marked : ∀ site ∈ query.sites,
    site + 9 ≤ Text.byteLength query.text ∧ query.text.IsBoundary site ∧
      query.text.IsBoundary (site + 9) ∧ Text.slice? site (site + 9) query.text = some marker
  /-- Each binding is well formed. -/
  bindings : ∀ binding ∈ query.bindings, binding.WellFormed

/-- The ranges of a text around markers at given sites, from a start to a stop. -/
def copiedRanges (stop : Nat) : Nat → List Nat → List (Nat × Nat)
  | start, [] => [(start, stop)]
  | start, site :: sites => (start, site) :: copiedRanges stop (site + 9) sites

/-- The queries that parsing and rendering can bring about. -/
inductive Obtainable : Query → Prop
  /-- The query without text. -/
  | empty : Obtainable empty
  /-- A template is parsed. -/
  | parse (policy : TailPolicy) (template : Text) : Obtainable (parse policy template)
  /-- A template is parsed strictly and accepted. -/
  | parseStrict {policy : TailPolicy} {template : Text} {query : Query}
      (accepted : parseStrict policy template = .ok query) : Obtainable query
  /-- The text of a query is parsed. -/
  | reparse (policy : TailPolicy) {query : Query} (earlier : Obtainable query) :
      Obtainable (parse policy query.text)
  /-- A query is rendered and what comes out is parsed. -/
  | rerender {σ : Type} (policy : TailPolicy) {query : Query} (replacement : Replacement σ)
      {before after : σ} {rendered : Text} (earlier : Obtainable query)
      (rendering : query.replaceMarkers replacement before = some (rendered, after)) :
      Obtainable (parse policy rendered)

theorem exists_of_mem_siteOffsets {offset site : Nat} {pieces : List Piece}
    (member : site ∈ siteOffsets offset pieces) :
    ∃ front back, pieces.flatMap Piece.text = front ++ marker ++ back ∧
      offset + Text.byteLength front = site := by
  induction pieces generalizing offset with
  | nil => simp [siteOffsets] at member
  | cons piece pieces induction =>
      cases piece with
      | copied text =>
          obtain ⟨front, back, whole, width⟩ := induction member
          refine ⟨text ++ front, back, ?_, ?_⟩
          · simp [Piece.text, whole]
          · rw [Text.byteLength_append]
            omega
      | site binding =>
          rcases List.mem_cons.mp member with rfl | member
          · exact ⟨[], pieces.flatMap Piece.text, by simp [Piece.text], rfl⟩
          · obtain ⟨front, back, whole, width⟩ := induction member
            refine ⟨marker ++ front, back, ?_, ?_⟩
            · simp [Piece.text, whole]
            · rw [Text.byteLength_append]
              omega

/-- At each site stands a marker. -/
theorem exists_of_mem_sites {pieces : List Piece} {site : Nat}
    (member : site ∈ (ofPieces pieces).sites) :
    ∃ front back, (ofPieces pieces).text = front ++ marker ++ back ∧
      Text.byteLength front = site := by
  obtain ⟨front, back, whole, width⟩ := exists_of_mem_siteOffsets member
  exact ⟨front, back, whole, by omega⟩

theorem pairwise_siteOffsets (offset : Nat) (pieces : List Piece) :
    (siteOffsets offset pieces).Pairwise fun earlier later => earlier + 9 ≤ later := by
  induction pieces generalizing offset with
  | nil => exact .nil
  | cons piece pieces induction =>
      cases piece with
      | copied text => exact induction _
      | site binding =>
          refine .cons ?_ (induction _)
          intro later member
          obtain ⟨front, _, _, rfl⟩ := exists_of_mem_siteOffsets member
          rw [byteLength_marker]
          omega

theorem wellFormed_ofPieces {pieces : List Piece}
    (wellFormed : ∀ binding ∈ (ofPieces pieces).bindings, binding.WellFormed) :
    (ofPieces pieces).WellFormed := by
  refine ⟨length_sites_ofPieces pieces, pairwise_siteOffsets 0 pieces, ?_, wellFormed⟩
  intro site member
  obtain ⟨front, back, text_eq, rfl⟩ := exists_of_mem_sites member
  have found : Text.slice? (Text.byteLength front) (Text.byteLength front + 9)
      (ofPieces pieces).text = some marker :=
    Text.slice?_eq_some_iff.mpr ⟨front, back, text_eq, rfl, by simp⟩
  obtain ⟨_, inside, starts, stops⟩ := Text.range_of_slice? found
  exact ⟨inside, starts, stops, found⟩

theorem wellFormed_parse (policy : TailPolicy) (template : Text) :
    (parse policy template).WellFormed :=
  wellFormed_ofPieces fun _ => wellFormed_of_mem_parse

theorem Obtainable.wellFormed {query : Query} (obtainable : Obtainable query) :
    query.WellFormed := by
  cases obtainable with
  | empty =>
      rw [← ofPieces_nil]
      exact wellFormed_ofPieces (by simp [ofPieces])
  | parse policy template => exact wellFormed_parse policy template
  | parseStrict accepted =>
      obtain ⟨_, rfl⟩ := parseStrict_eq_ok_iff.mp accepted
      exact wellFormed_parse _ _
  | reparse policy earlier => exact wellFormed_parse policy _
  | rerender policy replacement earlier rendering => exact wellFormed_parse policy _

/-- A text with markers apart from one another is cut around them. -/
theorem exists_stretches {text : Text} {sites : List Nat}
    (spaced : sites.Pairwise fun earlier later => earlier + 9 ≤ later)
    (marked : ∀ site ∈ sites, Text.slice? site (site + 9) text = some marker)
    {front rest : Text} (whole : text = front ++ rest)
    (behind : ∀ site ∈ sites, Text.byteLength front ≤ site) :
    ∃ stretches, stretches? (Text.byteLength front) rest sites = some stretches ∧
      stretches.map some =
        (copiedRanges (Text.byteLength text) (Text.byteLength front) sites).map fun range =>
          Text.slice? range.1 range.2 text := by
  induction sites generalizing front rest with
  | nil =>
      have last : Text.slice? (Text.byteLength front) (Text.byteLength text) text = some rest :=
        Text.slice?_eq_some_iff.mpr ⟨front, [], by simpa using whole, rfl, by rw [whole]⟩
      exact ⟨[rest], by simp [stretches?], by simp [copiedRanges, last]⟩
  | cons site sites induction =>
      rw [List.pairwise_cons] at spaced
      rw [List.forall_mem_cons] at marked behind
      obtain ⟨before, after, cut, rfl, stop⟩ := Text.slice?_eq_some_iff.mp marked.1
      have parts : front ++ rest = before ++ (marker ++ after) := by
        rw [← whole, cut, List.append_assoc]
      obtain ⟨stretch, rfl, rfl⟩ := Text.exists_append_of_width_le parts behind.1
      have beyond : ∀ site ∈ sites, Text.byteLength (front ++ stretch ++ marker) ≤ site := by
        intro site member
        rw [stop]
        exact spaced.1 site member
      obtain ⟨stretches, found, slices⟩ := induction spaced.2 marked.2 cut beyond
      refine ⟨stretch :: stretches, ?_, ?_⟩
      · have first := stretches?_append (Text.byteLength front) stretch after sites
        rw [← Text.byteLength_append, ← Text.byteLength_append, found] at first
        rw [← List.append_assoc, first]
        rfl
      · have slice : Text.slice? (Text.byteLength front) (Text.byteLength (front ++ stretch)) text =
            some stretch :=
          Text.slice?_eq_some_iff.mpr ⟨front, marker ++ after, whole.trans parts, rfl, rfl⟩
        rw [List.map_cons, slices, stop, copiedRanges, List.map_cons, slice]

end Query

namespace Session

open Query

theorem obtainable_step {session : Session} (obtainable : Obtainable session.last)
    (command : Command) : Obtainable (session.step command).1.last := by
  cases command with
  | options options =>
      rw [step]
      split <;> exact obtainable
  | policy policy => exact obtainable
  | parse template => exact .parse session.policy template
  | parseStrict template =>
      rw [step]
      split
      · next query accepted => exact .parseStrict accepted
      · exact obtainable
  | reparse => exact .reparse session.policy obtainable
  | collect template => exact obtainable
  | collectLast => exact obtainable
  | render style =>
      rw [step]
      split <;> exact obtainable
  | renderParse style =>
      rw [step]
      split
      · next rendered rendered_eq =>
        obtain ⟨⟨_, seen⟩, rendering, rfl⟩ := Option.map_eq_some_iff.mp rendered_eq
        exact .rerender session.policy style.replacement obtainable rendering
      · exact obtainable
  | takeLast => exact .empty

/-- A session keeps its last query obtainable. -/
theorem obtainable_run {session : Session} (obtainable : Obtainable session.last)
    (commands : List Command) {answered : Session × Reply}
    (member : answered ∈ session.run commands) : Obtainable answered.1.last := by
  induction commands generalizing session with
  | nil => simp [run] at member
  | cons command commands induction =>
      have stepped := obtainable_step obtainable command
      rcases List.mem_cons.mp member with rfl | member
      · exact stepped
      · exact induction stepped member

end Session

namespace Query

/-- Every query that can be obtained, in a session or otherwise, is well formed, and rendering cuts
it between characters. -/
theorem wellFormed_of_obtainable :
    (∀ query, Obtainable query →
      query.WellFormed ∧
        (∀ range ∈ copiedRanges (Text.byteLength query.text) 0 query.sites,
          range.1 ≤ range.2 ∧ range.2 ≤ Text.byteLength query.text ∧
            query.text.IsBoundary range.1 ∧ query.text.IsBoundary range.2) ∧
        ∃ stretches, stretches? 0 query.text query.sites = some stretches ∧
          stretches.map some =
            (copiedRanges (Text.byteLength query.text) 0 query.sites).map fun range =>
              Text.slice? range.1 range.2 query.text) ∧
      ∀ policy bindings commands,
        ∀ answered ∈ (Session.start policy bindings).run commands, Obtainable answered.1.last := by
  refine ⟨?_, ?_⟩
  · intro query obtainable
    have wellFormed := obtainable.wellFormed
    obtain ⟨stretches, found, slices⟩ := exists_stretches wellFormed.spaced
      (fun site member => (wellFormed.marked site member).2.2.2) (List.nil_append query.text).symm
      (by simp)
    refine ⟨wellFormed, ?_, stretches, found, slices⟩
    intro range member
    have slice : Text.slice? range.1 range.2 query.text ∈ stretches.map some := by
      rw [slices]
      exact List.mem_map_of_mem member
    obtain ⟨stretch, _, slice_eq⟩ := List.mem_map.mp slice
    exact Text.range_of_slice? slice_eq.symm
  · intro policy bindings commands answered member
    exact Session.obtainable_run .empty commands member

/-- Two placeholders, rendered as texts that hold placeholders again. -/
theorem wellFormed_of_obtainable_kinds :
    (⟨.absorb, [], parse .absorb "é<0:Named>'?0'<1:IndexedExpression>".toList⟩,
        .text "é<0:Named>'?0'<1:IndexedExpression>".toList) ∈
        (Session.start .absorb []).run
          [.parse "é:a'?0'?#\x7b:b".toList, .renderParse .kind] ∧
      (parse .absorb "é<0:Named>'?0'<1:IndexedExpression>".toList).WellFormed := by
  have member : (⟨.absorb, [], parse .absorb "é<0:Named>'?0'<1:IndexedExpression>".toList⟩,
      .text "é<0:Named>'?0'<1:IndexedExpression>".toList) ∈
      (Session.start .absorb []).run
        [.parse "é:a'?0'?#\x7b:b".toList, .renderParse .kind] := by decide +kernel
  have obtainable := wellFormed_of_obtainable.2 _ _ _ _ member
  exact ⟨member, (wellFormed_of_obtainable.1 _ obtainable).1⟩

end Query
end CqlText
