import CqlText.Proofs.Obtainable

/-!
# Markers replaced in turn

Rendering calls a replacement once for each binding and lays what it gives where the binding's
marker stood. The main statements are `calledInTurn`, about the calls, and `site_eq_of_stretches?`,
by which the sites are where the stretches between the markers end.
-/

namespace CqlText
namespace Query

/-- A replacement is called for bindings in turn, each time with the state that the call before it
left. -/
structure CalledInTurn {σ : Type} (replacement : Replacement σ) (bindings : List Binding)
    (initial : σ) (texts : List Text) (states : List σ) (final : σ) : Prop where
  /-- There is a text for each binding. -/
  length_texts : texts.length = bindings.length
  /-- There is a state before each call, and one after the last. -/
  length_states : states.length = bindings.length + 1
  /-- The state before any call. -/
  first : states[0]? = some initial
  /-- The state after all calls. -/
  last : states.getLast? = some final
  /-- What each call gives and leaves. -/
  call : ∀ ordinal binding, bindings[ordinal]? = some binding →
    ∃ before text after, states[ordinal]? = some before ∧
      replacement ordinal binding before = (text, after) ∧
      texts[ordinal]? = some text ∧ states[ordinal + 1]? = some after

/-- A replacement that takes note of its calls. -/
def noting {σ : Type} (replacement : Replacement σ) : Replacement (σ × List (Binding × Nat)) :=
  fun ordinal binding state =>
    let called := replacement ordinal binding state.1
    (called.1, called.2, state.2 ++ [(binding, ordinal)])

section

variable {σ : Type} (replacement : Replacement σ)

theorem replacements_noting (ordinal : Nat) (bindings : List Binding) (state : σ)
    (notes : List (Binding × Nat)) :
    replacements (noting replacement) ordinal bindings (state, notes) =
      ((replacements replacement ordinal bindings state).1,
        (replacements replacement ordinal bindings state).2, notes ++ bindings.zipIdx ordinal) := by
  induction bindings generalizing ordinal state notes with
  | nil => simp [replacements]
  | cons binding bindings induction => simp [replacements, noting, induction]

/-- The states that pass from call to call, the first of which is made with a given ordinal. -/
def passedStates : Nat → List Binding → σ → List σ
  | _, [], state => [state]
  | ordinal, binding :: bindings, state =>
      state :: passedStates (ordinal + 1) bindings (replacement ordinal binding state).2

theorem getElem?_passedStates_zero (ordinal : Nat) (bindings : List Binding) (state : σ) :
    (passedStates replacement ordinal bindings state)[0]? = some state := by
  cases bindings <;> rfl

theorem length_passedStates (ordinal : Nat) (bindings : List Binding) (state : σ) :
    (passedStates replacement ordinal bindings state).length = bindings.length + 1 := by
  induction bindings generalizing ordinal state with
  | nil => rfl
  | cons binding bindings induction => simp [passedStates, induction]

theorem getLast?_passedStates (ordinal : Nat) (bindings : List Binding) (state : σ) :
    (passedStates replacement ordinal bindings state).getLast? =
      some (replacements replacement ordinal bindings state).2 := by
  induction bindings generalizing ordinal state with
  | nil => rfl
  | cons binding bindings induction =>
      rw [passedStates, List.getLast?_cons, induction, Option.getD_some]
      rfl

/-- The call for a binding is made with the ordinal it has behind the first. -/
theorem exists_call (first : Nat) {ordinal : Nat} {bindings : List Binding} {binding : Binding}
    (state : σ) (atOrdinal : bindings[ordinal]? = some binding) :
    ∃ before text after, (passedStates replacement first bindings state)[ordinal]? = some before ∧
      replacement (first + ordinal) binding before = (text, after) ∧
      (replacements replacement first bindings state).1[ordinal]? = some text ∧
      (passedStates replacement first bindings state)[ordinal + 1]? = some after := by
  induction bindings generalizing first ordinal state with
  | nil => simp at atOrdinal
  | cons other bindings induction =>
      cases ordinal with
      | zero =>
          obtain rfl : other = binding := by simpa using atOrdinal
          exact ⟨state, _, _, rfl, rfl, rfl,
            getElem?_passedStates_zero replacement (first + 1) bindings _⟩
      | succ ordinal =>
          have next : bindings[ordinal]? = some binding := atOrdinal
          obtain ⟨before, text, after, earlier, called, given, later⟩ :=
            induction (first + 1) (replacement first other state).2 next
          rw [Nat.add_assoc, Nat.add_comm 1] at called
          exact ⟨before, text, after, earlier, called, given, later⟩

theorem calledInTurn (bindings : List Binding) (state : σ) :
    CalledInTurn replacement bindings state (replacements replacement 0 bindings state).1
      (passedStates replacement 0 bindings state)
      (replacements replacement 0 bindings state).2 := by
  refine ⟨length_replacements replacement 0 bindings state,
    length_passedStates replacement 0 bindings state,
    getElem?_passedStates_zero replacement 0 bindings state,
    getLast?_passedStates replacement 0 bindings state, ?_⟩
  intro ordinal binding atOrdinal
  have call := exists_call replacement 0 state atOrdinal
  rwa [Nat.zero_add] at call

end

/-- A marker stands behind the stretches and the markers before it. -/
theorem site_eq_of_stretches? {offset : Nat} {text : Text} {sites : List Nat}
    {stretches : List Text} (found : stretches? offset text sites = some stretches)
    {ordinal site : Nat} (atOrdinal : sites[ordinal]? = some site) :
    site = offset + Text.byteLength
      (weave (stretches.take (ordinal + 1)) (List.replicate ordinal marker)) := by
  induction sites generalizing offset text stretches ordinal with
  | nil => simp at atOrdinal
  | cons first sites induction =>
      obtain ⟨stretch, after, others, rfl, rfl, othersFound, rfl⟩ := exists_of_stretches?_cons found
      cases ordinal with
      | zero =>
          obtain rfl : offset + Text.byteLength stretch = site := by simpa using atOrdinal
          simp [weave]
      | succ ordinal =>
          have next : sites[ordinal]? = some site := atOrdinal
          have behind := induction othersFound next
          simp only [List.take_succ_cons, List.replicate_succ, weave, Text.byteLength_append]
          omega

/-- A query that can be obtained is made of stretches with its markers between them. Rendering keeps
the stretches and lays between them what a replacement gives if it is called for each binding once
and in turn; with the marker itself it gives the text of the query. -/
theorem rendering_replaces_markers {query : Query} (obtainable : Obtainable query) :
    ∃ stretches : List Text,
      (stretches.length = query.bindings.length + 1 ∧
        weave stretches (List.replicate query.bindings.length marker) = query.text ∧
        query.sites.length = query.bindings.length ∧
        ∀ ordinal site, query.sites[ordinal]? = some site →
          site = Text.byteLength
            (weave (stretches.take (ordinal + 1)) (List.replicate ordinal marker))) ∧
      (∀ {σ : Type} (replacement : Replacement σ) (initial : σ), ∃ texts states final,
        CalledInTurn replacement query.bindings initial texts states final ∧
          query.replaceMarkers replacement initial = some (weave stretches texts, final) ∧
          query.replaceMarkers (noting replacement) (initial, []) =
            some (weave stretches texts, final, query.bindings.zipIdx)) ∧
      (∀ mark, query.render (.fixed mark) =
        some (weave stretches (List.replicate query.bindings.length mark))) ∧
      query.render (.fixed marker) = some query.text := by
  have wellFormed := obtainable.wellFormed
  obtain ⟨stretches, found, _⟩ := exists_stretches wellFormed.spaced
    (fun site member => (wellFormed.marked site member).2.2.2) (List.nil_append query.text).symm
    (by simp)
  rw [Text.byteLength_nil] at found
  obtain ⟨length_eq, weave_eq⟩ := weave_marker found
  rw [wellFormed.paired] at length_eq weave_eq
  refine ⟨stretches, ⟨length_eq, weave_eq, wellFormed.paired, ?_⟩, ?_,
    render_fixed_of_stretches? found wellFormed.paired, ?_⟩
  · intro ordinal site atOrdinal
    rw [site_eq_of_stretches? found atOrdinal, Nat.zero_add]
  · intro σ replacement initial
    refine ⟨_, _, _, calledInTurn replacement query.bindings initial,
      replaceMarkers_of_stretches? found wellFormed.paired replacement initial, ?_⟩
    rw [replaceMarkers_of_stretches? found wellFormed.paired, replacements_noting,
      List.nil_append]
  · rw [render_fixed_of_stretches? found wellFormed.paired, weave_eq]

/-- Texts that look like markers, in a literal and over the edges of two markers. -/
theorem rendering_replaces_markers_overlapping :
    Obtainable (parse .absorb "?_param_:a'?_param_?'?0_param_?é".toList) ∧
      (parse .absorb "?_param_:a'?_param_?'?0_param_?é".toList).text =
        "?_param_?_param_?'?_param_?'?_param_?_param_?é".toList ∧
      (parse .absorb "?_param_:a'?_param_?'?0_param_?é".toList).render (.fixed marker) =
        some "?_param_?_param_?'?_param_?'?_param_?_param_?é".toList ∧
      (parse .absorb "?_param_:a'?_param_?'?0_param_?é".toList).render (.ordinal ['!']) =
        some "?_param_!0'?_param_?'!1_param_?é".toList := by
  have obtainable : Obtainable (parse .absorb "?_param_:a'?_param_?'?0_param_?é".toList) :=
    .parse _ _
  have text_eq : (parse .absorb "?_param_:a'?_param_?'?0_param_?é".toList).text =
      "?_param_?_param_?'?_param_?'?_param_?_param_?é".toList := by decide +kernel
  obtain ⟨_, _, _, _, rendered⟩ := rendering_replaces_markers obtainable
  exact ⟨obtainable, text_eq, rendered.trans (congrArg some text_eq), by decide +kernel⟩

end Query
end CqlText
