import CqlText.Proofs.OptionEntries

/-!
# The report of a refused value

The entry that a refused value comes from is found in the options text as it was written, and the
value is reported as it stands there. The key is reported in lower case.
-/

namespace CqlText
namespace Options

/-- The part of an options text is neither blank nor a good entry. -/
def BadPart (part : Text) : Prop :=
  Text.trim part ≠ [] ∧ Bad (Text.trim part)

/-- The blanks around an entry stand around its key and its value. -/
theorem isPair_of_trim {part key value : Text} (pair : IsPair (Text.trim part) key value) :
    IsPair part key value := by
  obtain ⟨before, after, free, entry_eq, rfl, rfl⟩ := pair
  obtain ⟨front, back, blank, part_eq⟩ := Text.exists_trim part
  have front_blank : ∀ symbol ∈ front, Text.isBlank symbol = true :=
    fun symbol member => blank symbol (List.mem_append_left back member)
  have back_blank : ∀ symbol ∈ back, Text.isBlank symbol = true :=
    fun symbol member => blank symbol (List.mem_append_right front member)
  have front_free : '=' ∉ front :=
    fun member => absurd (front_blank '=' member) (by decide)
  refine ⟨front ++ before, after ++ back, by simp [free, front_free], ?_,
    Text.trim_blank_append before front_blank, Text.trim_append_of_blank back_blank⟩
  rw [part_eq, entry_eq]
  simp

/-- The first bad entry stands in the first bad part. -/
theorem exists_badPart {parts : List Text} {error : OptionError}
    (first : FirstRefused ((parts.map Text.trim).filter (· ≠ [])) error) :
    ∃ front part back, parts = front ++ part :: back ∧ (∀ earlier ∈ front, ¬BadPart earlier) ∧
      Refused (Text.trim part) error := by
  induction parts with
  | nil => simp [FirstRefused] at first
  | cons part parts induction =>
      by_cases blank : Text.trim part = []
      · obtain ⟨front, bad, back, rfl, good, refused⟩ := induction (by simpa [blank] using first)
        refine ⟨part :: front, bad, back, rfl, List.forall_mem_cons.mpr ⟨?_, good⟩, refused⟩
        exact fun bad => bad.1 blank
      · have split : FirstRefused
            (Text.trim part :: (parts.map Text.trim).filter (· ≠ [])) error := by
          simpa [blank] using first
        rcases firstRefused_cons.mp split with refused | ⟨part_good, behind⟩
        · exact ⟨[], part, parts, rfl, by simp, refused⟩
        · obtain ⟨front, bad, back, rfl, good, refused⟩ := induction behind
          refine ⟨part :: front, bad, back, rfl, List.forall_mem_cons.mpr ⟨?_, good⟩, refused⟩
          exact fun bad => part_good bad.2

theorem lower_of_mem_keys {key : Text} (member : key ∈ TailPolicy.keys) : Text.lower key = key := by
  have lowered : ∀ name ∈ TailPolicy.keys, Text.lower name = name := by decide
  exact lowered key member

/-- A refused value stands in the first bad part of the options text, behind an equals sign. The key
in front of the sign is reported in lower case, and so as it was written only where it was written
in lower case. -/
theorem badValue_lowers_key {options key value : Text}
    (failed : read options = .error (.badValue key value)) :
    ∃ front part back written, Fields.split ';' options = front ++ part :: back ∧
      (∀ earlier ∈ front, ¬BadPart earlier) ∧ IsPair part written value ∧
      key = Text.lower written ∧ (key = written ↔ written ∈ TailPolicy.keys) := by
  obtain ⟨front, part, back, split, good, refused⟩ :=
    exists_badPart (readEntries_eq_error_iff.mp failed)
  cases refused with
  | badValue pair known unknown =>
      refine ⟨front, part, back, _, split, good, isPair_of_trim pair, rfl, ?_⟩
      constructor
      · intro as_written
        rw [← as_written]
        exact isKnown_iff.mp known
      · exact lower_of_mem_keys

/-- A refused value behind blank parts and behind an entry that sets the policy. -/
theorem badValue_lowers_key_later :
    ∃ front part back written,
      Fields.split ';' " ;Unterminated_Expression=absorb; UNTERMINATED expression = no=;x".toList =
        front ++ part :: back ∧
      (∀ earlier ∈ front, ¬BadPart earlier) ∧ IsPair part written "no=".toList ∧
      "unterminated expression".toList = Text.lower written ∧
      ("unterminated expression".toList = written ↔ written ∈ TailPolicy.keys) :=
  badValue_lowers_key (by rfl)

/-- The key of a refused value need not stand in the options text as it is reported. -/
theorem badValue_key_not_written :
    read "Unterminated_Expression=drop".toList =
        .error (.badValue "unterminated_expression".toList "drop".toList) ∧
      ¬∃ part ∈ Fields.split ';' "Unterminated_Expression=drop".toList,
        IsPair part "unterminated_expression".toList "drop".toList := by
  constructor
  · rfl
  · rintro ⟨part, member, pair⟩
    rw [Fields.split_of_notMem (by decide), List.mem_singleton] at member
    subst member
    exact absurd (isPair_iff.mp pair).2.1 (by decide)

end Options
end CqlText
