import CqlText.Options

/-!
# What the entries of an options text decide

An entry is bad, sets the policy or says nothing about it. The main statements are
`readEntries_eq_error_iff`, by which the first bad entry decides the error,
`readEntries_eq_ok_iff`, by which the last entry that sets the policy decides it otherwise, and
`readEntries_eq_map`, which tells how far the policy in force before matters. By
`readEntry_of_lowered`, keys may as well be compared in their lower case by Unicode.
-/

namespace CqlText

namespace Text

/-- A text and its lower case by Unicode, as far as words of ASCII can tell. -/
inductive Lowered : Text → Text → Prop
  /-- There is nothing to lower. -/
  | nil : Lowered [] []
  /-- A character of ASCII has the lower case of ASCII. -/
  | ascii {symbol : Char} {text lowered : Text} (small : symbol.toNat < 128)
      (others : Lowered text lowered) : Lowered (symbol :: text) (symbol.toLower :: lowered)
  /-- The sign for the kelvin has the lower case `k`. -/
  | kelvin {text lowered : Text} (others : Lowered text lowered) :
      Lowered ('\u212a' :: text) ('k' :: lowered)
  /-- The lower case of any other character, whatever stands around it, goes beyond ASCII. -/
  | other {symbol outside : Char} {part text lowered : Text} (large : 128 ≤ symbol.toNat)
      (member : outside ∈ part) (beyond : 128 ≤ outside.toNat) (others : Lowered text lowered) :
      Lowered (symbol :: text) (part ++ lowered)

theorem toLower_of_large {symbol : Char} (large : 128 ≤ symbol.toNat) :
    symbol.toLower = symbol := by
  refine dif_neg ?_
  rintro ⟨-, upper⟩
  have : symbol.toNat ≤ 'Z'.toNat := UInt32.le_iff_toNat_le.mp upper
  exact absurd large (Nat.not_le_of_lt (Nat.lt_of_le_of_lt this (by decide)))

/-- Words of ASCII without a `k` are the lower case of a text by Unicode just if they are by
ASCII. -/
theorem Lowered.eq_iff {text lowered word : Text} (lower_eq : Lowered text lowered)
    (small : ∀ symbol ∈ word, symbol.toNat < 128) (noKelvin : 'k' ∉ word) :
    lowered = word ↔ lower text = word := by
  induction lower_eq generalizing word with
  | nil => rfl
  | @ascii symbol text lowered _ _ induction =>
      cases word with
      | nil => simp [lower]
      | cons first word =>
          rw [List.forall_mem_cons] at small
          rw [List.mem_cons, not_or] at noKelvin
          simp only [lower, List.map_cons, List.cons.injEq]
          exact and_congr_right fun _ => induction small.2 noKelvin.2
  | @kelvin text lowered _ _ =>
      constructor
      · rintro rfl
        simp at noKelvin
      · rintro rfl
        exact absurd (small '\u212a' (by simp [lower])) (by decide)
  | @other symbol outside part text lowered large member beyond _ _ =>
      constructor
      · rintro rfl
        have := small outside (List.mem_append_left lowered member)
        omega
      · rintro rfl
        have := small symbol (by simp [lower, toLower_of_large large])
        omega

end Text

namespace TailPolicy

/-- No key tells whether letters beyond ASCII are lowered too. -/
theorem eq_key_iff_of_lowered {key lowered name : Text} (lower_eq : Text.Lowered key lowered)
    (member : name ∈ keys) : lowered = name ↔ Text.lower key = name := by
  have small : ∀ name ∈ keys, name.all (·.toNat < 128) = true := by decide
  have noKelvin : ∀ name ∈ keys, 'k' ∉ name := by decide
  exact lower_eq.eq_iff (by simpa using small name member) (noKelvin name member)

theorem spells_verbatim_of_absorb {value : Text} (absorbs : Text.spells value absorb.label = true) :
    Text.spells value verbatim.label = false := by
  rw [Text.spells, Text.spells_iff.mp absorbs]
  rfl

theorem ofValue?_eq_some_iff {value : Text} {policy : TailPolicy} :
    ofValue? value = some policy ↔ Text.spells value policy.label = true := by
  -- The words that are compared are the labels of the policies.
  change (if Text.spells value absorb.label = true then some absorb
    else if Text.spells value verbatim.label = true then some verbatim else none) = some policy ↔ _
  have apart : Text.spells value absorb.label = true → Text.spells value verbatim.label = false :=
    spells_verbatim_of_absorb
  cases policy <;> split <;> simp_all

theorem ofValue?_eq_none_iff {value : Text} :
    ofValue? value = none ↔ ∀ policy : TailPolicy, Text.spells value policy.label = false := by
  rw [Option.eq_none_iff_forall_ne_some]
  exact forall_congr' fun policy => by rw [ne_eq, ofValue?_eq_some_iff, Bool.not_eq_true]

end TailPolicy

namespace Options

/-- The entry has an equals sign, and around the first one a key and a value, up to blanks. -/
def IsPair (entry key value : Text) : Prop :=
  ∃ before after, '=' ∉ before ∧ entry = before ++ '=' :: after ∧
    Text.trim before = key ∧ Text.trim after = value

/-- The key is one of those that set the policy, in any letter case. -/
def IsKnown (key : Text) : Prop :=
  ∃ name ∈ TailPolicy.keys, Text.spells key name = true

/-- The entry is recognised by its key. -/
def Recognised (entry : Text) : Prop :=
  ∃ key value, IsPair entry key value ∧ IsKnown key

/-- The entry sets a policy. -/
def Sets (entry : Text) (policy : TailPolicy) : Prop :=
  ∃ key value, IsPair entry key value ∧ IsKnown key ∧ Text.spells value policy.label = true

/-- The entry is bad, for the reason that an error gives. -/
inductive Refused (entry : Text) : OptionError → Prop where
  /-- There is no equals sign. -/
  | notAPair (free : '=' ∉ entry) : Refused entry (.notAPair entry)
  /-- The entry is recognised, but its value names no policy. -/
  | badValue {key value : Text} (pair : IsPair entry key value) (known : IsKnown key)
      (unknown : ∀ policy : TailPolicy, Text.spells value policy.label = false) :
      Refused entry (.badValue (Text.lower key) value)

/-- The entry is bad. -/
def Bad (entry : Text) : Prop :=
  ∃ error, Refused entry error

theorem isKnown_iff {key : Text} : IsKnown key ↔ Text.lower key ∈ TailPolicy.keys := by
  simp [IsKnown, Text.spells_iff]

theorem isPair_iff {entry key value : Text} :
    IsPair entry key value ↔ '=' ∈ entry ∧ Text.trim (Text.partAt '=' entry).before = key ∧
      Text.trim (Text.partAt '=' entry).after = value := by
  constructor
  · rintro ⟨before, after, free, rfl, rfl, rfl⟩
    rw [Text.partAt_append after free]
    simp
  · rintro ⟨member, rfl, rfl⟩
    have whole := Text.before_append_after '=' entry
    rw [Text.marked_iff_mem.mpr member] at whole
    exact ⟨_, _, Text.mark_notMem_before '=' entry, by simpa using whole.symm, rfl, rfl⟩

theorem exists_isPair {entry : Text} (member : '=' ∈ entry) :
    ∃ key value, IsPair entry key value :=
  ⟨_, _, isPair_iff.mpr ⟨member, rfl, rfl⟩⟩

theorem IsPair.unique {entry key value key' value' : Text} (pair : IsPair entry key value)
    (pair' : IsPair entry key' value') : key = key' ∧ value = value' := by
  obtain ⟨-, rfl, rfl⟩ := isPair_iff.mp pair
  exact (isPair_iff.mp pair').2

theorem recognised_iff {entry : Text} :
    Recognised entry ↔ ((Text.partAt '=' entry).marked && TailPolicy.keys.contains
      (Text.lower (Text.trim (Text.partAt '=' entry).before))) = true := by
  rw [Bool.and_eq_true, Text.marked_iff_mem, List.contains_iff_mem]
  constructor
  · rintro ⟨key, value, pair, known⟩
    obtain ⟨member, rfl, -⟩ := isPair_iff.mp pair
    exact ⟨member, isKnown_iff.mp known⟩
  · rintro ⟨member, known⟩
    exact ⟨_, _, isPair_iff.mpr ⟨member, rfl, rfl⟩, isKnown_iff.mpr known⟩

instance (entry : Text) : Decidable (Recognised entry) :=
  decidable_of_iff _ recognised_iff.symm

section

variable {entry key value : Text}

theorem readEntry_of_free (free : '=' ∉ entry) : readEntry entry = .error (.notAPair entry) := by
  rw [readEntry, if_neg (mt Text.marked_iff_mem.mp free)]

theorem readEntry_of_unknown (pair : IsPair entry key value) (unknown : ¬IsKnown key) :
    readEntry entry = .ok none := by
  obtain ⟨member, rfl, rfl⟩ := isPair_iff.mp pair
  simp [readEntry, Text.marked_iff_mem.mpr member, mt isKnown_iff.mpr unknown]

theorem readEntry_of_policy (pair : IsPair entry key value) (known : IsKnown key)
    {policy : TailPolicy} (named : TailPolicy.ofValue? value = some policy) :
    readEntry entry = .ok (some policy) := by
  obtain ⟨member, rfl, rfl⟩ := isPair_iff.mp pair
  simp [readEntry, Text.marked_iff_mem.mpr member, isKnown_iff.mp known, named]

theorem readEntry_of_noPolicy (pair : IsPair entry key value) (known : IsKnown key)
    (unnamed : TailPolicy.ofValue? value = none) :
    readEntry entry = .error (.badValue (Text.lower key) value) := by
  obtain ⟨member, rfl, rfl⟩ := isPair_iff.mp pair
  simp [readEntry, Text.marked_iff_mem.mpr member, isKnown_iff.mp known, unnamed]

/-- An entry is read as it would be if its key had its lower case by Unicode. -/
theorem readEntry_of_lowered {lowered : Text} (pair : IsPair entry key value)
    (lower_eq : Text.Lowered key lowered) :
    readEntry entry =
      if lowered ∈ TailPolicy.keys then
        (TailPolicy.ofValue? value).elim (.error (.badValue lowered value)) fun policy =>
          .ok (some policy)
      else
        .ok none := by
  by_cases known : IsKnown key
  · have lowered_eq : lowered = Text.lower key :=
      (TailPolicy.eq_key_iff_of_lowered lower_eq (isKnown_iff.mp known)).mpr rfl
    rw [lowered_eq, if_pos (isKnown_iff.mp known)]
    cases named : TailPolicy.ofValue? value with
    | none => exact readEntry_of_noPolicy pair known named
    | some policy => exact readEntry_of_policy pair known named
  · have unknown : lowered ∉ TailPolicy.keys := by
      intro member
      have lowered_eq := (TailPolicy.eq_key_iff_of_lowered lower_eq member).mp rfl
      exact known (isKnown_iff.mpr (lowered_eq ▸ member))
    rw [if_neg unknown, readEntry_of_unknown pair known]

end

/-- What can come of an entry. -/
theorem readEntry_cases (entry : Text) :
    (∃ error, Refused entry error ∧ readEntry entry = .error error) ∨
      (∃ policy, Sets entry policy ∧ readEntry entry = .ok (some policy)) ∨
        (¬Recognised entry ∧ readEntry entry = .ok none) := by
  by_cases member : '=' ∈ entry
  · obtain ⟨key, value, pair⟩ := exists_isPair member
    by_cases known : IsKnown key
    · cases named : TailPolicy.ofValue? value with
      | none =>
          have refused := Refused.badValue pair known (TailPolicy.ofValue?_eq_none_iff.mp named)
          exact Or.inl ⟨_, refused, readEntry_of_noPolicy pair known named⟩
      | some policy =>
          have sets : Sets entry policy :=
            ⟨key, value, pair, known, TailPolicy.ofValue?_eq_some_iff.mp named⟩
          exact Or.inr (Or.inl ⟨policy, sets, readEntry_of_policy pair known named⟩)
    · refine Or.inr (Or.inr ⟨?_, readEntry_of_unknown pair known⟩)
      rintro ⟨key', value', pair', known'⟩
      exact known ((pair'.unique pair).1 ▸ known')
  · exact Or.inl ⟨_, .notAPair member, readEntry_of_free member⟩

theorem readEntry_eq_error_iff {entry : Text} {error : OptionError} :
    readEntry entry = .error error ↔ Refused entry error := by
  constructor
  · intro failed
    rcases readEntry_cases entry with ⟨error', refused, read⟩ | ⟨policy, -, read⟩ | ⟨-, read⟩
    · obtain rfl : error' = error := by simpa [read] using failed
      exact refused
    · simp [read] at failed
    · simp [read] at failed
  · intro refused
    cases refused with
    | notAPair free => exact readEntry_of_free free
    | badValue pair known unknown =>
        exact readEntry_of_noPolicy pair known (TailPolicy.ofValue?_eq_none_iff.mpr unknown)

theorem readEntry_eq_some_iff {entry : Text} {policy : TailPolicy} :
    readEntry entry = .ok (some policy) ↔ Sets entry policy := by
  constructor
  · intro done
    rcases readEntry_cases entry with ⟨error, -, read⟩ | ⟨policy', sets, read⟩ | ⟨-, read⟩
    · simp [read] at done
    · obtain rfl : policy' = policy := by simpa [read] using done
      exact sets
    · simp [read] at done
  · rintro ⟨key, value, pair, known, named⟩
    exact readEntry_of_policy pair known (TailPolicy.ofValue?_eq_some_iff.mpr named)

theorem not_recognised_of_none {entry : Text} (read : readEntry entry = .ok none) :
    ¬Recognised entry := by
  rcases readEntry_cases entry with ⟨error, -, read'⟩ | ⟨policy, -, read'⟩ | ⟨other, -⟩
  · simp [read'] at read
  · simp [read'] at read
  · exact other

theorem Sets.recognised {entry : Text} {policy : TailPolicy} (sets : Sets entry policy) :
    Recognised entry := by
  obtain ⟨key, value, pair, known, -⟩ := sets
  exact ⟨key, value, pair, known⟩

theorem bad_iff {entry : Text} : Bad entry ↔ ∃ error, readEntry entry = .error error :=
  exists_congr fun _ => readEntry_eq_error_iff.symm

/-- The first bad entry is bad for the reason that an error gives. -/
def FirstRefused (entries : List Text) (error : OptionError) : Prop :=
  ∃ front entry back, entries = front ++ entry :: back ∧ (∀ earlier ∈ front, ¬Bad earlier) ∧
    Refused entry error

/-- The last recognised entry sets a policy. -/
def LastSets (entries : List Text) (policy : TailPolicy) : Prop :=
  ∃ front entry back, entries = front ++ entry :: back ∧ Sets entry policy ∧
    ∀ later ∈ back, ¬Recognised later

/-- No entry is recognised. -/
def Silent (entries : List Text) : Prop :=
  ∀ entry ∈ entries, ¬Recognised entry

instance (entries : List Text) : Decidable (Silent entries) :=
  inferInstanceAs (Decidable (∀ entry ∈ entries, ¬Recognised entry))

/-- The ways to single out an item of a list. -/
theorem exists_split_cons {α : Type} {first : α} {items : List α}
    {holds : List α → α → List α → Prop} :
    (∃ front item back, first :: items = front ++ item :: back ∧ holds front item back) ↔
      holds [] first items ∨
        ∃ front item back, items = front ++ item :: back ∧ holds (first :: front) item back := by
  constructor
  · rintro ⟨front, item, back, split, held⟩
    cases front with
    | nil =>
        obtain ⟨rfl, rfl⟩ := List.cons.inj split
        exact Or.inl held
    | cons other front =>
        obtain ⟨rfl, rfl⟩ := List.cons.inj split
        exact Or.inr ⟨front, item, back, rfl, held⟩
  · rintro (held | ⟨front, item, back, rfl, held⟩)
    · exact ⟨[], first, items, rfl, held⟩
    · exact ⟨first :: front, item, back, rfl, held⟩

theorem firstRefused_cons {entry : Text} {entries : List Text} {error : OptionError} :
    FirstRefused (entry :: entries) error ↔
      Refused entry error ∨ ¬Bad entry ∧ FirstRefused entries error := by
  rw [FirstRefused, exists_split_cons]
  constructor
  · rintro (⟨-, refused⟩ | ⟨front, bad, back, split, good, refused⟩)
    · exact Or.inl refused
    · obtain ⟨entry_good, good⟩ := List.forall_mem_cons.mp good
      exact Or.inr ⟨entry_good, front, bad, back, split, good, refused⟩
  · rintro (refused | ⟨entry_good, front, bad, back, split, good, refused⟩)
    · exact Or.inl ⟨by simp, refused⟩
    · have all_good : ∀ earlier ∈ entry :: front, ¬Bad earlier :=
        List.forall_mem_cons.mpr ⟨entry_good, good⟩
      exact Or.inr ⟨front, bad, back, split, all_good, refused⟩

theorem lastSets_cons {entry : Text} {entries : List Text} {policy : TailPolicy} :
    LastSets (entry :: entries) policy ↔
      LastSets entries policy ∨ Sets entry policy ∧ Silent entries := by
  rw [LastSets, exists_split_cons, or_comm]
  rfl

theorem silent_cons {entry : Text} {entries : List Text} :
    Silent (entry :: entries) ↔ ¬Recognised entry ∧ Silent entries :=
  List.forall_mem_cons

/-- The first bad entry decides the error, whatever follows it. -/
theorem readEntries_eq_error_iff {policy : TailPolicy} {entries : List Text} {error : OptionError} :
    readEntries policy entries = .error error ↔ FirstRefused entries error := by
  induction entries generalizing policy with
  | nil => simp [readEntries, FirstRefused]
  | cons entry entries induction =>
      rw [readEntries, firstRefused_cons, bad_iff, ← readEntry_eq_error_iff]
      cases readEntry entry with
      | error error' => simp
      | ok setting => simp [induction]

/-- Where no entry is bad, the last recognised one decides the policy. -/
theorem readEntries_eq_ok_iff {policy final : TailPolicy} {entries : List Text} :
    readEntries policy entries = .ok final ↔
      (∀ entry ∈ entries, ¬Bad entry) ∧
        (LastSets entries final ∨ Silent entries ∧ final = policy) := by
  induction entries generalizing policy with
  | nil => simp [readEntries, LastSets, Silent, eq_comm]
  | cons entry entries induction =>
      rw [readEntries, List.forall_mem_cons, lastSets_cons, silent_cons, bad_iff,
        ← readEntry_eq_some_iff]
      cases read : readEntry entry with
      | error error' => simp
      | ok setting =>
          cases setting with
          | none => simp [induction, not_recognised_of_none read]
          | some policy' =>
              have recognised := (readEntry_eq_some_iff.mp read).recognised
              simp [induction, recognised, eq_comm, and_comm]

/-- The policy in force before matters only where no entry is recognised. -/
theorem readEntries_eq_map (policy other : TailPolicy) (entries : List Text) :
    readEntries policy entries =
      (readEntries other entries).map fun final => if Silent entries then policy else final := by
  induction entries generalizing policy other with
  | nil => simp [readEntries, Silent, Except.map]
  | cons entry entries induction =>
      rw [readEntries, readEntries]
      cases read : readEntry entry with
      | error error => rfl
      | ok setting =>
          cases setting with
          | none =>
              have other' := not_recognised_of_none read
              simp [silent_cons, other', induction policy other]
          | some policy' =>
              have recognised := (readEntry_eq_some_iff.mp read).recognised
              simp only [silent_cons, recognised, not_true_eq_false, false_and, if_false]
              exact (congrFun Except.map_id _).symm

theorem exists_firstRefused_iff {entries : List Text} :
    (∃ error, FirstRefused entries error) ↔ ∃ entry ∈ entries, Bad entry := by
  constructor
  · rintro ⟨error, front, entry, back, rfl, -, refused⟩
    exact ⟨entry, by simp, error, refused⟩
  · rintro ⟨entry, member, bad⟩
    induction entries with
    | nil => simp at member
    | cons first entries induction =>
        by_cases first_bad : Bad first
        · obtain ⟨error, refused⟩ := first_bad
          exact ⟨error, firstRefused_cons.mpr (Or.inl refused)⟩
        · have behind : entry ∈ entries := by
            rcases List.mem_cons.mp member with rfl | behind
            · exact absurd bad first_bad
            · exact behind
          obtain ⟨error, refused⟩ := induction behind
          exact ⟨error, firstRefused_cons.mpr (Or.inr ⟨first_bad, refused⟩)⟩

/-- An options text is refused if one of its entries is bad, for the reason of the first such entry.
Otherwise it sets the policy of its last recognised entry, or to absorb if there is none. Of two
texts joined by a semicolon the first that is refused decides the error; otherwise the second
decides the policy if one of its entries is recognised, and the first one if not. -/
theorem entries_decide (options : Text) :
    ((∃ error, read options = .error error) ↔ ∃ entry ∈ entries options, Bad entry) ∧
      (∀ error, read options = .error error ↔ FirstRefused (entries options) error) ∧
      (∀ policy, read options = .ok policy ↔
        (∀ entry ∈ entries options, ¬Bad entry) ∧
          (LastSets (entries options) policy ∨ Silent (entries options) ∧ policy = .absorb)) ∧
      ∀ others, read (options ++ ';' :: others) = do
        let policy ← read options
        let final ← read others
        return if Silent (entries others) then policy else final := by
  refine ⟨?_, fun error => readEntries_eq_error_iff, fun policy => readEntries_eq_ok_iff, ?_⟩
  · rw [← exists_firstRefused_iff]
    exact exists_congr fun error => readEntries_eq_error_iff
  · intro others
    rw [read, entries_append, readEntries_append]
    cases first : readEntries .standard (entries options) with
    | error error => simp [read, first, bind, Except.bind]
    | ok policy =>
        have read_options : read options = .ok policy := first
        rw [read_options]
        exact readEntries_eq_map policy .standard (entries others)

/-- A bad entry that hides another one, and a recognised entry that outlives an unknown key. -/
theorem entries_decide_mixed :
    FirstRefused (entries " =a=b ;; drop ;x;Unterminated_Expression=".toList)
        (.notAPair "drop".toList) ∧
      read (" unterminated Expression = VERBATIM".toList ++ ';' :: "Marker==?;".toList) =
        .ok .verbatim := by
  constructor
  · exact ((entries_decide _).2.1 _).mp rfl
  · rw [(entries_decide _).2.2.2]
    rfl

end Options
end CqlText
