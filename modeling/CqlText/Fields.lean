/-!
# Separated fields

A separator divides a list into fields, one more than there are separators. The main statements are
`join_split`, which puts the list together again, and `split_join`, which finds again the fields
that were joined.
-/

namespace CqlText
namespace Fields

/-- Put an item in front of the first field. -/
def extendFirst {α : Type} (item : α) : List (List α) → List (List α)
  | [] => [[item]]
  | field :: fields => (item :: field) :: fields

/-- The fields of a list between separators. -/
def split {α : Type} [DecidableEq α] (separator : α) (items : List α) : List (List α) :=
  items.foldr
    (fun item fields => if item = separator then [] :: fields else extendFirst item fields) [[]]

/-- Fields with a separator between neighbours. -/
def join {α : Type} (separator : α) : List (List α) → List α
  | [] => []
  | [field] => field
  | field :: fields => field ++ separator :: join separator fields

theorem join_cons {α : Type} (separator : α) (field : List α) {fields : List (List α)}
    (nonempty : fields ≠ []) :
    join separator (field :: fields) = field ++ separator :: join separator fields := by
  obtain ⟨second, others, rfl⟩ := List.exists_cons_of_ne_nil nonempty
  rfl

theorem join_ne_nil {α : Type} (separator : α) {field : List α} (fields : List (List α))
    (nonempty : field ≠ []) : join separator (field :: fields) ≠ [] := by
  cases fields with
  | nil => exact nonempty
  | cons second fields => simp [join]

/-- Fields joined in two groups. -/
theorem join_append {α : Type} (separator : α) {front back : List (List α)} (someFront : front ≠ [])
    (someBack : back ≠ []) :
    join separator (front ++ back) =
      join separator front ++ separator :: join separator back := by
  induction front with
  | nil => exact absurd rfl someFront
  | cons field front induction =>
      cases front with
      | nil => exact join_cons separator field someBack
      | cons second front =>
          rw [List.cons_append, join_cons separator field (by simp), induction (by simp),
            join_cons separator field (by simp), List.append_assoc, List.cons_append]

theorem infix_join_of_mem {α : Type} {separator : α} {field : List α} {fields : List (List α)}
    (member : field ∈ fields) : field <:+: join separator fields := by
  induction fields with
  | nil => simp at member
  | cons first fields induction =>
      by_cases last : fields = []
      · subst last
        obtain rfl : field = first := by simpa using member
        exact List.infix_rfl
      · rw [join_cons separator first last]
        rcases List.mem_cons.mp member with rfl | member
        · exact (List.prefix_append _ _).isInfix
        · exact (List.infix_cons (induction member)).trans (List.suffix_append first _).isInfix

section

variable {α : Type} [DecidableEq α]

@[simp] theorem split_nil (separator : α) : split separator [] = [[]] := rfl

@[simp] theorem split_cons_separator (separator : α) (items : List α) :
    split separator (separator :: items) = [] :: split separator items := by
  simp [split]

theorem split_cons {separator item : α} (items : List α) (other : item ≠ separator) :
    split separator (item :: items) = extendFirst item (split separator items) := by
  simp [split, other]

theorem exists_split_eq_cons (separator : α) (items : List α) :
    ∃ field fields, split separator items = field :: fields := by
  cases items with
  | nil => exact ⟨[], [], rfl⟩
  | cons item items =>
      by_cases same : item = separator
      · subst same
        exact ⟨[], _, split_cons_separator item items⟩
      · rw [split_cons items same]
        cases split separator items with
        | nil => exact ⟨_, _, rfl⟩
        | cons field fields => exact ⟨_, _, rfl⟩

theorem split_ne_nil (separator : α) (items : List α) : split separator items ≠ [] := by
  obtain ⟨field, fields, split_eq⟩ := exists_split_eq_cons separator items
  simp [split_eq]

/-- The fields of two lists around a separator. -/
theorem split_append (separator : α) (left right : List α) :
    split separator (left ++ separator :: right) =
      split separator left ++ split separator right := by
  induction left with
  | nil => simp
  | cons item left induction =>
      by_cases same : item = separator
      · subst same
        simp [induction]
      · obtain ⟨field, fields, split_eq⟩ := exists_split_eq_cons separator left
        rw [List.cons_append, split_cons _ same, induction, split_cons _ same, split_eq]
        rfl

/-- Dividing loses nothing. -/
theorem join_split (separator : α) (items : List α) :
    join separator (split separator items) = items := by
  induction items with
  | nil => rfl
  | cons item items induction =>
      obtain ⟨first, others, split_eq⟩ := exists_split_eq_cons separator items
      by_cases same : item = separator
      · subst same
        rw [split_cons_separator, split_eq, join, ← split_eq, induction, List.nil_append]
        simp
      · rw [split_cons _ same, split_eq, extendFirst]
        rw [split_eq] at induction
        cases others with
        | nil => simpa [join] using induction
        | cons second others => simpa [join] using induction

/-- A field is a part of the list. -/
theorem infix_of_mem_split {separator : α} {items field : List α}
    (member : field ∈ split separator items) : field <:+: items := by
  have joined : field <:+: join separator (split separator items) := infix_join_of_mem member
  rwa [join_split] at joined

theorem split_of_notMem {separator : α} {field : List α} (free : separator ∉ field) :
    split separator field = [field] := by
  induction field with
  | nil => rfl
  | cons item field induction =>
      rw [List.mem_cons, not_or] at free
      rw [split_cons _ (Ne.symm free.1), induction free.2]
      rfl

/-- The fields that were joined are found again. -/
theorem split_join {separator : α} {fields : List (List α)} (nonempty : fields ≠ [])
    (free : ∀ field ∈ fields, separator ∉ field) :
    split separator (join separator fields) = fields := by
  induction fields with
  | nil => exact absurd rfl nonempty
  | cons field fields induction =>
      have field_free := free field (List.mem_cons_self ..)
      cases fields with
      | nil => exact split_of_notMem field_free
      | cons second fields =>
          have rest_eq : split separator (join separator (second :: fields)) = second :: fields :=
            induction (by simp) fun other member => free other (List.mem_cons_of_mem _ member)
          have join_eq : join separator (field :: second :: fields) =
              field ++ separator :: join separator (second :: fields) := by
            simp [join]
          rw [join_eq, split_append, split_of_notMem field_free, rest_eq]
          rfl

end

end Fields
end CqlText
