import CqlText.Binding.Stored
import CqlText.Proofs.JsonText

/-!
# Stored bindings read back

Every list of bindings and every list of kinds is loaded from what it is stored as, whatever the
names and sources hold, by any storage that keeps to its laws. The main statements are
`Storage.Lawful.load?_store` and `stored_read_back`; by `Json.plainStorage_lawful` the plain storage
is one that does.
-/

namespace CqlText

namespace Storage.Lawful

variable {α : Type} [Storage α] {form : α → Json.Item} {ofForm? : Json.Item → Option α}

/-- What is stored is loaded, if each value is found again in the element that stands for it. -/
theorem load?_store (lawful : Lawful form ofForm?)
    (found : ∀ value, ofForm? (form value) = some value) (values : List α) :
    load? (store values) = some values := by
  obtain ⟨escape, escapes, store_eq⟩ := lawful.compact
  rw [store_eq]
  exact lawful.reads (Json.isText_compact escapes _) (Json.mapM_map_eq_some found values)

/-- Lists with one text are one list. -/
theorem store_inj (lawful : Lawful form ofForm?)
    (found : ∀ value, ofForm? (form value) = some value) {values values' : List α} :
    store values = store values' ↔ values = values' := by
  constructor
  · intro same
    have loaded := lawful.load?_store found values
    rw [same, lawful.load?_store found values', Option.some.injEq] at loaded
    exact loaded.symm
  · rintro rfl
    rfl

end Storage.Lawful

/-- The plain storage keeps to the laws. -/
theorem Json.plainStorage_lawful {α : Type} (form : α → Item) (ofForm? : Item → Option α) :
    @Storage.Lawful α (plainStorage form ofForm?) form ofForm? := by
  refine @Storage.Lawful.mk α (plainStorage form ofForm?) form ofForm? ?_ ?_
  · exact ⟨escape, escapes_escape, fun _ => rfl⟩
  · intro text items values isText found
    change (read? text).bind (fun items => items.mapM ofForm?) = some values
    rw [read?_of_isText isText, Option.bind_some, found]

namespace Binding

theorem Kind.ofItem?_item (kind : Kind) : ofItem? kind.item = some kind := by
  simp [item, ofItem?]

theorem ofItem?_item (binding : Binding) : ofItem? binding.item = some binding := by
  cases binding <;> simp [item, ofItem?, kind, content, ofContent?]

/-- By a lawful storage bindings are loaded from what they are stored as, and so are their kinds
where the kinds alone are stored. No two lists of bindings are stored as one text. -/
theorem stored_read_back [Storage Binding] [Storage Kind]
    (lawful : Storage.Lawful item ofItem?) (kindsLawful : Storage.Lawful Kind.item Kind.ofItem?) :
    (∀ bindings : List Binding, load? (store bindings) = some bindings ∧
        Kind.load? (Kind.store (bindings.map kind)) = some (bindings.map kind)) ∧
      ∀ bindings bindings' : List Binding, store bindings = store bindings' ↔ bindings = bindings' :=
    by
  refine ⟨?_, fun _ _ => lawful.store_inj ofItem?_item⟩
  intro bindings
  exact ⟨lawful.load?_store ofItem?_item bindings,
    kindsLawful.load?_store Kind.ofItem?_item (bindings.map kind)⟩

/-- The plain storage, with a name that looks like the end of its binding and holds a control
character, and with the last index. -/
theorem stored_read_back_plain :
    Storage.Lawful item ofItem? ∧ Storage.Lawful Kind.item Kind.ofItem? ∧
      store [.named "\"\x7d,\\\x1f".toList, .positional 18446744073709551615] =
        ("[\x7b\"Named\":\"\\\"\x7d,\\\\\\u001f\"\x7d," ++
          "\x7b\"Positional\":18446744073709551615\x7d]").toList ∧
      load? (store [.named "\"\x7d,\\\x1f".toList, .positional 18446744073709551615]) =
        some [.named "\"\x7d,\\\x1f".toList, .positional 18446744073709551615] ∧
      Kind.load? "[\"Named\",\"Positional\"]".toList = some [.named, .positional] := by
  have lawful : Storage.Lawful item ofItem? := Json.plainStorage_lawful item ofItem?
  have kindsLawful : Storage.Lawful Kind.item Kind.ofItem? :=
    Json.plainStorage_lawful Kind.item Kind.ofItem?
  obtain ⟨loaded, kindsLoaded⟩ := (stored_read_back lawful kindsLawful).1
    [.named "\"\x7d,\\\x1f".toList, .positional 18446744073709551615]
  exact ⟨lawful, kindsLawful, rfl, loaded, kindsLoaded⟩

end Binding
end CqlText
