import CqlText.Fields
import CqlText.Proofs.Bytes
import CqlText.Proofs.Obtainable

/-!
# Markers found by search

A marker is a core between two question marks, and the core holds none. So a marker stands in a text
exactly where the core is a field between question marks, and a template that does not mention the
core leaves it to the markers. The main statements are `mem_sites_of_marker`, by which a query whose
stretches are free of the core has markers at its sites only, and `searchFrom_eq_sites`, by which a
search from left to right finds its sites.
-/

namespace CqlText
namespace Query

/-- The marker without its question marks. -/
def core : Text :=
  ['_', 'p', 'a', 'r', 'a', 'm', '_']

theorem marker_eq_core : marker = '?' :: core ++ ['?'] := rfl

theorem question_notMem_core : '?' ∉ core := by decide

theorem behindMarker?_length {text after : Text} (found : behindMarker? text = some after) :
    after.length < text.length := by
  rw [behindMarker?_eq_some_iff.mp found, List.length_append]
  exact Nat.lt_add_of_pos_left (by decide)

/-- The byte offsets at which a search from left to right finds markers, where `text` starts at a
byte offset. The search goes on behind each marker found. -/
def searchFrom (offset : Nat) : Text → List Nat
  | [] => []
  | symbol :: text =>
      match _found : behindMarker? (symbol :: text) with
      | some after => offset :: searchFrom (offset + Text.byteLength marker) after
      | none => searchFrom (offset + symbol.utf8Size) text
termination_by text => text.length
decreasing_by
  · exact behindMarker?_length _found
  · exact Nat.lt_succ_self _

/-- The byte offsets at which a search of a text finds markers. -/
def search (text : Text) : List Nat :=
  searchFrom 0 text

theorem searchFrom_of_found {text after : Text} (found : behindMarker? text = some after)
    (offset : Nat) :
    searchFrom offset text = offset :: searchFrom (offset + Text.byteLength marker) after := by
  cases text with
  | nil => simp [behindMarker?, marker] at found
  | cons symbol text =>
      rw [searchFrom]
      split
      · next other same =>
        rw [found] at same
        rw [Option.some.inj same]
      · next absent => simp [found] at absent

theorem searchFrom_cons {symbol : Char} {text : Text}
    (absent : behindMarker? (symbol :: text) = none) (offset : Nat) :
    searchFrom offset (symbol :: text) = searchFrom (offset + symbol.utf8Size) text := by
  rw [searchFrom]
  split
  · next after found => simp [absent] at found
  · rfl

/-- A search passes over text in which no marker starts. -/
theorem searchFrom_append (offset : Nat) {front : Text} (after : Text)
    (absent : ∀ before behind, front ++ after = before ++ marker ++ behind →
      front.length ≤ before.length) :
    searchFrom offset (front ++ after) = searchFrom (offset + Text.byteLength front) after := by
  induction front generalizing offset with
  | nil => simp
  | cons symbol front induction =>
      have first : behindMarker? (symbol :: (front ++ after)) = none := by
        rw [Option.eq_none_iff_forall_ne_some]
        intro behind found
        have later := absent [] behind (behindMarker?_eq_some_iff.mp found)
        simp at later
      have others : ∀ before behind, front ++ after = before ++ marker ++ behind →
          front.length ≤ before.length := by
        intro before behind whole
        have later := absent (symbol :: before) behind (by simp [whole])
        simpa using later
      rw [List.cons_append, searchFrom_cons first, induction _ others, Text.byteLength_cons,
        Nat.add_assoc]

theorem searchFrom_of_notInfix {text : Text} (absent : ¬ marker <:+: text) (offset : Nat) :
    searchFrom offset text = [] := by
  have nowhere : ∀ before behind, text ++ [] = before ++ marker ++ behind →
      text.length ≤ before.length := by
    intro before behind whole
    rw [List.append_nil] at whole
    exact absurd ⟨before, behind, whole.symm⟩ absent
  have passed := searchFrom_append offset [] nowhere
  rw [List.append_nil] at passed
  rw [passed, searchFrom]

/-- Around a marker, the question marks part a text with the core as a field. -/
theorem split_marker (front after : Text) :
    Fields.split '?' (front ++ marker ++ after) =
      Fields.split '?' front ++ core :: Fields.split '?' after := by
  have whole : front ++ marker ++ after = front ++ '?' :: (core ++ '?' :: after) := by
    simp [marker_eq_core]
  rw [whole, Fields.split_append, Fields.split_append, Fields.split_of_notMem question_notMem_core,
    List.singleton_append]

theorem core_notMem_split {stretch : Text} (free : ¬ core <:+: stretch) :
    core ∉ Fields.split '?' stretch := by
  intro member
  exact free (Fields.infix_of_mem_split member)

theorem marker_notInfix {stretch : Text} (free : ¬ core <:+: stretch) : ¬ marker <:+: stretch := by
  rintro ⟨before, behind, rfl⟩
  refine core_notMem_split free ?_
  rw [split_marker]
  simp

/-- Where an item stands behind a list that lacks it, it stands there first. -/
theorem eq_or_exists_of_append_cons_eq {α : Type} {item : α} {front after before behind : List α}
    (absent : item ∉ front) (same : front ++ item :: after = before ++ item :: behind) :
    front = before ∨ ∃ between, before = front ++ item :: between ∧
      after = between ++ item :: behind := by
  obtain ⟨passed, before_eq, rest_eq⟩ | ⟨other, inner, front_eq, rest_eq⟩ :=
    Text.append_eq_append_cases same
  · cases passed with
    | nil => exact .inl (by simpa using before_eq.symm)
    | cons first passed =>
        obtain ⟨rfl, after_eq⟩ := List.cons.inj rest_eq
        exact .inr ⟨passed, before_eq, after_eq⟩
  · obtain ⟨rfl, _⟩ := List.cons.inj rest_eq
    exact absurd (by simp [front_eq]) absent

/-- Behind a stretch that is free of the core, the next marker is the one laid there, or one that
lies wholly behind it, or one that shares a question mark with it and has its core in what
follows. -/
theorem marker_behind {front after before behind : Text} (free : ¬ core <:+: front)
    (whole : front ++ marker ++ after = before ++ marker ++ behind) :
    before = front ∨
      (∃ between, before = front ++ marker ++ between ∧ after = between ++ marker ++ behind) ∨
      (Fields.split '?' after).head? = some core := by
  have fields := congrArg (Fields.split '?') whole
  rw [split_marker, split_marker] at fields
  obtain same | ⟨passed, before_eq, after_eq⟩ :=
    eq_or_exists_of_append_cons_eq (core_notMem_split free) fields
  · left
    have joined := congrArg (Fields.join '?') same
    rw [Fields.join_split, Fields.join_split] at joined
    exact joined.symm
  · right
    by_cases shared : passed = []
    · right
      simp [after_eq, shared]
    · left
      have joined := congrArg (Fields.join '?') before_eq
      rw [Fields.join_split, Fields.join_append '?' (Fields.split_ne_nil '?' front) (by simp),
        Fields.join_cons '?' core shared, Fields.join_split] at joined
      have joinedAfter := congrArg (Fields.join '?') after_eq
      rw [Fields.join_split, Fields.join_append '?' shared (by simp),
        Fields.join_cons '?' core (Fields.split_ne_nil '?' behind),
        Fields.join_split] at joinedAfter
      refine ⟨Fields.join '?' passed, ?_, ?_⟩
      · simp [joined, marker_eq_core]
      · simp [joinedAfter, marker_eq_core]

/-- Where the stretches are free of the core, none of it stands in front of the first question
mark. -/
theorem head?_split_ne_core {offset : Nat} {text : Text} {sites : List Nat} {stretches : List Text}
    (found : stretches? offset text sites = some stretches)
    (free : ∀ stretch ∈ stretches, ¬ core <:+: stretch) :
    (Fields.split '?' text).head? ≠ some core := by
  intro head
  cases sites with
  | nil =>
      obtain rfl : [text] = stretches := by simpa [stretches?] using found
      exact core_notMem_split (free text List.mem_cons_self) (List.mem_of_mem_head? head)
  | cons site sites =>
      obtain ⟨stretch, after, others, rfl, _, _, rfl⟩ := exists_of_stretches?_cons found
      obtain ⟨field, fields, split_eq⟩ := Fields.exists_split_eq_cons '?' stretch
      have absent := core_notMem_split (free stretch List.mem_cons_self)
      rw [split_marker, split_eq, List.cons_append, List.head?_cons] at head
      rw [split_eq, Option.some.inj head] at absent
      exact absent List.mem_cons_self

section

variable {offset : Nat} {text stretch after before behind : Text} {sites : List Nat}
  {stretches others : List Text}

/-- Where the stretches are free of the core, a marker is the first one or lies wholly behind it. -/
theorem marker_at_or_behind (found : stretches? offset after sites = some others)
    (free : ∀ other ∈ stretch :: others, ¬ core <:+: other)
    (whole : stretch ++ marker ++ after = before ++ marker ++ behind) :
    before = stretch ∨
      ∃ between, before = stretch ++ marker ++ between ∧
        after = between ++ marker ++ behind := by
  rw [List.forall_mem_cons] at free
  obtain first | later | shared := marker_behind free.1 whole
  · exact .inl first
  · exact .inr later
  · exact absurd shared (head?_split_ne_core found free.2)

/-- Where the stretches are free of the core, there are markers at the sites only. -/
theorem mem_sites_of_marker (found : stretches? offset text sites = some stretches)
    (free : ∀ stretch ∈ stretches, ¬ core <:+: stretch)
    (whole : text = before ++ marker ++ behind) : offset + Text.byteLength before ∈ sites := by
  induction sites generalizing offset text stretches before with
  | nil =>
      obtain rfl : [text] = stretches := by simpa [stretches?] using found
      exact absurd ⟨before, behind, whole.symm⟩ (marker_notInfix (free text List.mem_cons_self))
  | cons site sites induction =>
      obtain ⟨stretch, after, others, rfl, rfl, othersFound, rfl⟩ :=
        exists_of_stretches?_cons found
      obtain rfl | ⟨between, rfl, after_eq⟩ := marker_at_or_behind othersFound free whole
      · exact List.mem_cons_self
      · have later := induction othersFound (List.forall_mem_cons.mp free).2 after_eq
        refine List.mem_cons_of_mem _ ?_
        rwa [Text.byteLength_append, Text.byteLength_append, ← Nat.add_assoc, ← Nat.add_assoc]

/-- Where the stretches are free of the core, a search finds the sites. -/
theorem searchFrom_eq_sites (found : stretches? offset text sites = some stretches)
    (free : ∀ stretch ∈ stretches, ¬ core <:+: stretch) : searchFrom offset text = sites := by
  induction sites generalizing offset text stretches with
  | nil =>
      obtain rfl : [text] = stretches := by simpa [stretches?] using found
      exact searchFrom_of_notInfix (marker_notInfix (free text List.mem_cons_self)) offset
  | cons site sites induction =>
      obtain ⟨stretch, after, others, rfl, rfl, othersFound, rfl⟩ :=
        exists_of_stretches?_cons found
      have absent : ∀ before behind, stretch ++ (marker ++ after) = before ++ marker ++ behind →
          stretch.length ≤ before.length := by
        intro before behind whole
        rw [← List.append_assoc] at whole
        obtain rfl | ⟨between, rfl, _⟩ := marker_at_or_behind othersFound free whole
        · exact Nat.le_refl _
        · simp
      rw [List.append_assoc, searchFrom_append offset _ absent,
        searchFrom_of_found (behindMarker?_append after),
        induction othersFound (List.forall_mem_cons.mp free).2]

end

/-- What is copied between the sites of lexemes stands in their sources. -/
theorem exists_copiedStretches (policy : TailPolicy) (lexemes : List Lexeme) :
    ∃ first others, copiedStretches (lexemes.map (Lexeme.piece policy)) = first :: others ∧
      first <+: lexemes.flatMap Lexeme.source ∧
      ∀ stretch ∈ others, stretch <:+: lexemes.flatMap Lexeme.source := by
  induction lexemes with
  | nil => exact ⟨[], [], rfl, List.prefix_rfl, by simp⟩
  | cons lexeme lexemes induction =>
      obtain ⟨first, others, stretches_eq, starts, inside⟩ := induction
      have behind : lexemes.flatMap Lexeme.source <:+:
          (lexeme :: lexemes).flatMap Lexeme.source := (List.suffix_append _ _).isInfix
      cases piece_eq : lexeme.piece policy with
      | copied text =>
          obtain rfl := Lexeme.piece_eq_copied piece_eq
          refine ⟨lexeme.source ++ first, others, ?_, ?_, ?_⟩
          · rw [List.map_cons, piece_eq, copiedStretches, stretches_eq, extendFirst]
          · exact (List.prefix_append_right_inj lexeme.source).mpr starts
          · exact fun stretch member => (inside stretch member).trans behind
      | site binding =>
          refine ⟨[], first :: others, ?_, List.nil_prefix, ?_⟩
          · rw [List.map_cons, piece_eq, copiedStretches, stretches_eq]
          · rw [List.forall_mem_cons]
            exact ⟨starts.isInfix.trans behind,
              fun stretch member => (inside stretch member).trans behind⟩

theorem infix_of_mem_copiedStretches {policy : TailPolicy} {template stretch : Text}
    (member : stretch ∈ copiedStretches (Template.pieces policy template)) :
    stretch <:+: template := by
  obtain ⟨first, others, stretches_eq, starts, inside⟩ :=
    exists_copiedStretches policy (Template.lexemes template)
  rw [Template.lexemes_source] at starts inside
  rw [Template.pieces, stretches_eq] at member
  rcases List.mem_cons.mp member with rfl | member
  · exact starts.isInfix
  · exact inside stretch member

theorem exists_of_bindings_getElem? {pieces : List Piece} {ordinal : Nat} {binding : Binding}
    (found : (ofPieces pieces).bindings[ordinal]? = some binding) :
    ∃ before after, pieces = before ++ .site binding :: after ∧
      (ofPieces before).bindings.length = ordinal := by
  induction pieces generalizing ordinal with
  | nil => simp [ofPieces] at found
  | cons piece pieces induction =>
      cases piece with
      | copied text =>
          obtain ⟨before, after, rfl, count⟩ := induction found
          exact ⟨.copied text :: before, after, rfl, count⟩
      | site first =>
          cases ordinal with
          | zero =>
              obtain rfl : first = binding := Option.some.inj found
              exact ⟨[], pieces, rfl, rfl⟩
          | succ ordinal =>
              obtain ⟨before, after, rfl, count⟩ := induction found
              exact ⟨.site first :: before, after, rfl, congrArg Nat.succ count⟩

theorem sites_getElem? (before after : List Piece) (binding : Binding) :
    (ofPieces (before ++ .site binding :: after)).sites[(ofPieces before).bindings.length]? =
      some (Text.byteLength (ofPieces before).text) := by
  have sites_eq : (ofPieces (before ++ .site binding :: after)).sites =
      (ofPieces before).sites ++ Text.byteLength (ofPieces before).text ::
        siteOffsets (Text.byteLength (ofPieces before).text + Text.byteLength marker) after := by
    simp [ofPieces, siteOffsets_append, siteOffsets]
  rw [sites_eq, ← length_sites_ofPieces, List.getElem?_append_right (Nat.le_refl _), Nat.sub_self]
  rfl

/-- The site of a binding is where the text of the pieces before its own ends. -/
theorem exists_site {pieces : List Piece} {ordinal : Nat} {binding : Binding}
    (found : (ofPieces pieces).bindings[ordinal]? = some binding) :
    ∃ before after, pieces = before ++ .site binding :: after ∧
      (ofPieces before).bindings.length = ordinal ∧
      (ofPieces pieces).sites[ordinal]? = some (Text.byteLength (ofPieces before).text) := by
  obtain ⟨before, after, rfl, rfl⟩ := exists_of_bindings_getElem? found
  exact ⟨before, after, rfl, rfl, sites_getElem? before after binding⟩

section

variable (policy : TailPolicy) {template : Text} (unmentioned : ¬ core <:+: template)

include unmentioned

theorem core_notInfix_stretch :
    ∀ stretch ∈ copiedStretches (Template.pieces policy template), ¬ core <:+: stretch := by
  intro stretch member mentioned
  exact unmentioned (mentioned.trans (infix_of_mem_copiedStretches member))

theorem search_parse : search (parse policy template).text = (parse policy template).sites :=
  searchFrom_eq_sites (stretches?_ofPieces (Template.pieces policy template))
    (core_notInfix_stretch policy unmentioned)

theorem occursAt_iff_mem_sites (position : Nat) :
    Text.OccursAt marker (parse policy template).text position ↔
      position ∈ (parse policy template).sites := by
  rw [Text.occursAt_iff (by decide)]
  constructor
  · intro found
    obtain ⟨before, behind, whole, rfl, _⟩ := Text.slice?_eq_some_iff.mp found
    have member := mem_sites_of_marker (stretches?_ofPieces (Template.pieces policy template))
      (core_notInfix_stretch policy unmentioned) whole
    rwa [Nat.zero_add] at member
  · intro member
    rw [byteLength_marker]
    exact ((wellFormed_parse policy template).marked position member).2.2.2

end

/-- A search of the query of a template that does not mention the core of the marker finds the
markers of the bindings, one after another, and there are no others. -/
theorem search_finds_sites (policy : TailPolicy) {template : Text}
    (unmentioned : ¬ core <:+: template) :
    (∀ position, Text.OccursAt marker (parse policy template).text position ↔
        position ∈ (parse policy template).sites) ∧
      search (parse policy template).text = (parse policy template).sites ∧
      (search (parse policy template).text).length = (parse policy template).bindings.length ∧
      (∀ ordinal binding, (parse policy template).bindings[ordinal]? = some binding →
        ∃ before after, Template.pieces policy template = before ++ .site binding :: after ∧
          (ofPieces before).bindings.length = ordinal ∧
          (search (parse policy template).text)[ordinal]? =
            some (Text.byteLength (ofPieces before).text)) ∧
      ∀ (otherPolicy : TailPolicy) (other : Text), ¬ core <:+: other →
        (parse otherPolicy other).text = (parse policy template).text →
          (parse otherPolicy other).sites = (parse policy template).sites ∧
            (parse otherPolicy other).bindings.length =
              (parse policy template).bindings.length := by
  have found := search_parse policy unmentioned
  have paired (policy : TailPolicy) (template : Text) :
      (parse policy template).sites.length = (parse policy template).bindings.length :=
    length_sites_ofPieces _
  refine ⟨occursAt_iff_mem_sites policy unmentioned, found, ?_, ?_, ?_⟩
  · rw [found, paired]
  · intro ordinal binding atOrdinal
    rw [found]
    exact exists_site atOrdinal
  · intro otherPolicy other otherUnmentioned same
    have sites_eq : (parse otherPolicy other).sites = (parse policy template).sites := by
      rw [← search_parse otherPolicy otherUnmentioned, same, found]
    exact ⟨sites_eq, by rw [← paired, sites_eq, paired]⟩

/-- Question marks on either side of two markers that follow one another, and parts of the core. -/
theorem search_finds_sites_adjacent :
    ¬ core <:+: "?param_?1:aé'_param?'?#\x7b_".toList ∧
      (parse .verbatim "?param_?1:aé'_param?'?#\x7b_".toList).text =
        "?param_?_param_??_param_?'_param?'?#\x7b_".toList ∧
      search "?param_?_param_??_param_?'_param?'?#\x7b_".toList = [7, 16] ∧
      (search "?param_?_param_??_param_?'_param?'?#\x7b_".toList).length =
        (parse .verbatim "?param_?1:aé'_param?'?#\x7b_".toList).bindings.length := by
  have unmentioned : ¬ core <:+: "?param_?1:aé'_param?'?#\x7b_".toList := by decide +kernel
  have text_eq : (parse .verbatim "?param_?1:aé'_param?'?#\x7b_".toList).text =
      "?param_?_param_??_param_?'_param?'?#\x7b_".toList := by decide +kernel
  have sites_eq : (parse .verbatim "?param_?1:aé'_param?'?#\x7b_".toList).sites = [7, 16] := by
    decide +kernel
  obtain ⟨_, found, count, _⟩ := search_finds_sites .verbatim unmentioned
  rw [text_eq] at found count
  exact ⟨unmentioned, text_eq, found.trans sites_eq, count⟩

end Query
end CqlText
