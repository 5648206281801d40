import CqlText.Proofs.Fit
import CqlText.Query.Parse

/-!
# Templates cut and joined

A lexeme without a fault is decided by at most the two characters behind it. The main statements are
`Template.lexemes_cut`, by which a template may be cut behind such lexemes, and
`Template.lexemes_join`, by which templates are read apart if the second does not carry on the
first.
-/

namespace CqlText

namespace Text

/-- The text carries on no lexeme before it. -/
def Seam (text : Text) : Prop :=
  ∀ symbol ∈ text.head?, isAlphanumeric symbol = false ∧ symbol ≠ '_' ∧ symbol ≠ '#' ∧ symbol ≠ '{'

theorem seam_cons {symbol : Char} {text : Text} :
    Seam (symbol :: text) ↔ continuesName symbol = false ∧ symbol ≠ '#' ∧ symbol ≠ '{' := by
  simp [Seam, continuesName, and_assoc]

instance (text : Text) : Decidable text.Seam :=
  match text with
  | [] => isTrue (by simp [Seam])
  | _ :: _ => decidable_of_iff _ seam_cons.symm

theorem Seam.stops {inside : Char → Bool}
    (within : ∀ symbol, inside symbol = true → continuesName symbol = true) {text : Text}
    (seam : Seam text) : Stops inside text := by
  cases text with
  | nil => exact stops_nil inside
  | cons symbol text =>
      obtain ⟨stops, _⟩ := seam_cons.mp seam
      refine stops_cons.mpr (Bool.eq_false_iff.mpr ?_)
      intro member
      simp [within symbol member] at stops

theorem stops_append {inside : Char → Bool} {front back : Text} (first : Stops inside front)
    (second : Stops inside back) : Stops inside (front ++ back) := by
  cases front with
  | nil => exact second
  | cons symbol front => exact stops_cons.mpr (stops_cons.mp first)

theorem stops_append_of_ne_nil {inside : Char → Bool} {front : Text} (stops : Stops inside front)
    (nonempty : front ≠ []) (back : Text) : Stops inside (front ++ back) := by
  obtain ⟨symbol, others, rfl⟩ := List.exists_cons_of_ne_nil nonempty
  exact stops_cons.mpr (stops_cons.mp stops)

theorem stops_of_append {inside : Char → Bool} {front back : Text}
    (stops : Stops inside (front ++ back)) : Stops inside front := by
  cases front with
  | nil => exact stops_nil inside
  | cons symbol front => exact stops_cons.mpr (stops_cons.mp stops)

end Text

theorem Lead.continuesName_of_begins {lead : Lead} (symbol : Char)
    (begins : lead.begins symbol = true) : Text.continuesName symbol = true := by
  cases lead with
  | question => exact Text.continuesName_of_isDigit begins
  | colon => exact Text.continuesName_of_startsName begins

theorem Lead.seam (lead : Lead) (text : Text) : Text.Seam (lead.symbol :: text) := by
  cases lead <;> exact Text.seam_cons.mpr (by decide)

namespace Lexeme

/-- Whether a lexeme is without a fault. -/
def isSound : Lexeme → Bool
  | literal _ closed => closed
  | overflow _ => false
  | expression _ _ closed => closed
  | _ => true

theorem fault?_eq_none_iff {lexeme : Lexeme} {offset : Nat} :
    lexeme.fault? offset = none ↔ lexeme.isSound = true := by
  rcases lexeme with _ | ⟨_, _ | _⟩ | _ | _ | _ | ⟨_, _, _ | _⟩ <;> simp [fault?, isSound]

theorem body?_append_eq_none_of {front back : Text} (unopened : body? front = none)
    (empty : front = [] → body? back = none)
    (sharp : front = ['#'] → ∀ tail, back ≠ '{' :: tail) : body? (front ++ back) = none := by
  rw [body?_eq_none_iff]
  intro body whole
  rcases front with _ | ⟨first, _ | ⟨second, front⟩⟩
  · exact body?_eq_none_iff.mp (empty rfl) body whole
  · obtain ⟨rfl, rest_eq⟩ := List.cons.inj whole
    exact sharp rfl body rest_eq
  · obtain ⟨rfl, others⟩ := List.cons.inj whole
    obtain ⟨rfl, _⟩ := List.cons.inj others
    exact body?_eq_none_iff.mp unopened front rfl

theorem body?_append_eq_none {front back : Text} (unopened : body? front = none)
    (seam : back.Seam) : body? (front ++ back) = none := by
  apply body?_append_eq_none_of unopened
  · rintro -
    rw [body?_eq_none_iff]
    rintro body rfl
    exact (Text.seam_cons.mp seam).2.1 rfl
  · rintro - tail rfl
    exact (Text.seam_cons.mp seam).2.2 rfl

theorem body?_eq_none_of_append {front back : Text} (unopened : body? (front ++ back) = none) :
    body? front = none := by
  rw [body?_eq_none_iff] at unopened ⊢
  rintro body rfl
  exact unopened (body ++ back) rfl

/-- A sound lexeme fits also if the text behind it is cut short. -/
theorem Fits.cut {lexeme : Lexeme} {front back : Text} (sound : lexeme.isSound = true)
    (fits : lexeme.Fits (front ++ back)) : lexeme.Fits front := by
  cases lexeme with
  | character symbol =>
      refine ⟨fits.unquoted, ?_⟩
      intro lead same
      obtain ⟨unopened, stops⟩ := fits.unopened lead same
      exact ⟨body?_eq_none_of_append unopened, Text.stops_of_append stops⟩
  | literal content closed =>
      obtain rfl : closed = true := sound
      exact ⟨fits.1, by simp⟩
  | overflow digits => simp [isSound] at sound
  | positional digits => exact ⟨fits.1, fits.2.1, Text.stops_of_append fits.2.2⟩
  | named name => exact ⟨fits.1, Text.stops_of_append fits.2⟩
  | expression lead body closed =>
      obtain rfl : closed = true := sound
      exact ⟨fits.1, by simp⟩

/-- A sound lexeme fits also if the text behind it goes on with one that carries on nothing. -/
theorem Fits.join {lexeme : Lexeme} {front back : Text} (sound : lexeme.isSound = true)
    (fits : lexeme.Fits front) (seam : back.Seam) : lexeme.Fits (front ++ back) := by
  cases lexeme with
  | character symbol =>
      refine ⟨fits.unquoted, ?_⟩
      intro lead same
      obtain ⟨unopened, stops⟩ := fits.unopened lead same
      exact ⟨body?_append_eq_none unopened seam,
        Text.stops_append stops (seam.stops Lead.continuesName_of_begins)⟩
  | literal content closed =>
      obtain rfl : closed = true := sound
      exact ⟨fits.1, by simp⟩
  | overflow digits => simp [isSound] at sound
  | positional digits =>
      exact ⟨fits.1, fits.2.1,
        Text.stops_append fits.2.2 (seam.stops fun _ => Text.continuesName_of_isDigit)⟩
  | named name => exact ⟨fits.1, Text.stops_append fits.2 (seam.stops fun _ => id)⟩
  | expression lead body closed =>
      obtain rfl : closed = true := sound
      exact ⟨fits.1, by simp⟩

end Lexeme

namespace Template

theorem Fit.cut {lexemes : List Lexeme} {rest : Text}
    (sound : ∀ lexeme ∈ lexemes, lexeme.isSound = true) (fit : Fit lexemes rest) :
    Fit lexemes [] := by
  induction lexemes with
  | nil => trivial
  | cons lexeme lexemes induction =>
      rw [List.forall_mem_cons] at sound
      refine ⟨?_, induction sound.2 fit.2⟩
      rw [List.append_nil]
      exact fit.1.cut sound.1

theorem Fit.join {lexemes : List Lexeme} {rest : Text}
    (sound : ∀ lexeme ∈ lexemes, lexeme.isSound = true) (fit : Fit lexemes []) (seam : rest.Seam) :
    Fit lexemes rest := by
  induction lexemes with
  | nil => trivial
  | cons lexeme lexemes induction =>
      rw [List.forall_mem_cons] at sound
      refine ⟨?_, induction sound.2 fit.2⟩
      have fits := fit.1
      rw [List.append_nil] at fits
      exact fits.join sound.1 seam

theorem firstFault?_eq_none_iff {offset : Nat} {lexemes : List Lexeme} :
    firstFault? offset lexemes = none ↔ ∀ lexeme ∈ lexemes, lexeme.isSound = true := by
  induction lexemes generalizing offset with
  | nil => simp [firstFault?]
  | cons lexeme lexemes induction =>
      rw [firstFault?, List.forall_mem_cons, ← @Lexeme.fault?_eq_none_iff lexeme offset]
      cases lexeme.fault? offset with
      | none => simp [induction]
      | some fault => simp

/-- The first fault is that of a lexeme behind sound ones. -/
theorem exists_of_firstFault? {offset : Nat} {lexemes : List Lexeme} {fault : Fault}
    (found : firstFault? offset lexemes = some fault) :
    ∃ front lexeme back, lexemes = front ++ lexeme :: back ∧
      (∀ lexeme ∈ front, lexeme.isSound = true) ∧
      lexeme.fault? (offset + Text.byteLength (front.flatMap Lexeme.source)) = some fault := by
  induction lexemes generalizing offset with
  | nil => simp [firstFault?] at found
  | cons lexeme lexemes induction =>
      rw [firstFault?] at found
      split at found
      · next first first_eq =>
        obtain rfl := Option.some.inj found
        exact ⟨[], lexeme, lexemes, rfl, by simp, by simpa using first_eq⟩
      · next sound =>
        obtain ⟨front, faulty, back, rfl, frontSound, fault_eq⟩ := induction found
        refine ⟨lexeme :: front, faulty, back, rfl, ?_, ?_⟩
        · exact List.forall_mem_cons.mpr ⟨Lexeme.fault?_eq_none_iff.mp sound, frontSound⟩
        · simpa [Nat.add_assoc] using fault_eq

theorem fault?_eq_none_iff {template : Text} :
    fault? template = none ↔ ∀ lexeme ∈ lexemes template, lexeme.isSound = true :=
  firstFault?_eq_none_iff

/-- Cut behind sound lexemes, a template has these lexemes. -/
theorem lexemes_cut {template : Text} {front back : List Lexeme}
    (whole : lexemes template = front ++ back)
    (sound : ∀ lexeme ∈ front, lexeme.isSound = true) :
    lexemes (front.flatMap Lexeme.source) = front := by
  have fit := fit_lexemes template
  rw [whole, fit_append] at fit
  exact lexemes_of_fit (fit.1.cut sound)

/-- Behind a template without a fault, one that does not carry it on is read by itself. -/
theorem lexemes_join {front back : Text} (sound : fault? front = none) (seam : back.Seam) :
    lexemes (front ++ back) = lexemes front ++ lexemes back := by
  have fit := (fit_lexemes front).join (fault?_eq_none_iff.mp sound) seam
  have read := lexemes_append fit
  rwa [lexemes_source] at read

end Template

namespace Query

/-- Behind lexemes, a template has the query that it has by itself. -/
theorem parse_behind {whole back : Text} {front : List Lexeme}
    (read : Template.lexemes whole = front ++ Template.lexemes back) (policy : TailPolicy) :
    parse policy whole = ofPieces (front.map (Lexeme.piece policy)) ++ parse policy back := by
  rw [parse, Template.pieces, read, List.map_append, ofPieces_append]
  rfl

theorem parse_join (policy : TailPolicy) {front back : Text}
    (sound : Template.fault? front = none) (seam : back.Seam) :
    parse policy (front ++ back) = parse policy front ++ parse policy back :=
  parse_behind (Template.lexemes_join sound seam) policy

end Query
end CqlText
