import DesignBridge.Validation.Field

/-! # When checks accept

A check that is put together accepts just if all its parts do, and gives what they give.
-/

namespace DesignBridge

namespace Checked

variable {α β : Type} {x : Checked α} {a : α} {b : β}

theorem map_eq_accepted_iff {f : α → β} :
    f <$> x = .accepted b ↔ ∃ a, x = .accepted a ∧ f a = b := by
  cases x with
  | rejected issues => simp
  | accepted a => simp

theorem seq_eq_accepted_iff {f : Checked (α → β)} :
    f <*> x = .accepted b ↔ ∃ g a, f = .accepted g ∧ x = .accepted a ∧ g a = b := by
  cases f with
  | rejected issues => exact ⟨(nomatch ·), fun ⟨_, _, hf, _⟩ => nomatch hf⟩
  | accepted g =>
      cases x with
      | rejected issues => exact ⟨(nomatch ·), fun ⟨_, _, _, hx, _⟩ => nomatch hx⟩
      | accepted a => simp

/-- Of two checks that are put together, both accept. -/
theorem map_seq_eq_accepted_iff {γ : Type} {f : α → β → γ} {y : Checked β} {c : γ} :
    f <$> x <*> y = .accepted c ↔ ∃ a b, x = .accepted a ∧ y = .accepted b ∧ f a b = c := by
  rw [seq_eq_accepted_iff]
  constructor
  · rintro ⟨g, b, hg, hy, rfl⟩
    obtain ⟨a, hx, rfl⟩ := map_eq_accepted_iff.mp hg
    exact ⟨a, b, hx, hy, rfl⟩
  · rintro ⟨a, b, rfl, rfl, rfl⟩
    exact ⟨f a, b, rfl, rfl, rfl⟩

theorem under_eq_accepted_iff {part : PathPart} : x.under part = .accepted a ↔ x = .accepted a := by
  cases x with
  | rejected issues => exact ⟨(nomatch ·), (nomatch ·)⟩
  | accepted b => rfl

end Checked

/-- A field with one name is looked up under it. -/
theorem FieldKey.find?_same (name : Runes) (members : Json.Members) :
    (same name).find? members = (members.lookup name).map fun value => (name, value) := by
  unfold find? same
  dsimp only
  cases members.lookup name <;> rfl

/-- The value that an object gives for a field: the one under its wire name, if there is one. -/
theorem FieldKey.map_snd_find? (key : FieldKey) (members : Json.Members) :
    (key.find? members).map Prod.snd =
      (members.lookup key.wire).or (members.lookup key.plain) := by
  unfold find?
  cases members.lookup key.wire with
  | some value => rfl
  | none => cases members.lookup key.plain <;> rfl

namespace Validation

variable {α : Type} {members : Json.Members} {key : FieldKey} {read : Json → Checked α} {a : α}

theorem requiredField_eq_accepted_iff : requiredField members key read = .accepted a ↔
    ∃ found, key.find? members = some found ∧ read found.2 = .accepted a := by
  unfold requiredField
  cases hfind : key.find? members with
  | none => simp [Checked.under_eq_accepted_iff, Checked.fail]
  | some found => simp [Checked.under_eq_accepted_iff]

theorem fieldOr_eq_accepted_iff {fallback : α} : fieldOr members key fallback read = .accepted a ↔
    (∃ found, key.find? members = some found ∧ read found.2 = .accepted a) ∨
      key.find? members = none ∧ fallback = a := by
  unfold fieldOr
  cases hfind : key.find? members with
  | none => simp
  | some found => simp [Checked.under_eq_accepted_iff]

/-- A field with one name that must be there. -/
theorem requiredField_same_eq_accepted_iff {name : Runes} :
    requiredField members name read = .accepted a ↔
      ∃ value, members.lookup name = some value ∧ read value = .accepted a := by
  rw [requiredField_eq_accepted_iff, FieldKey.find?_same]
  cases members.lookup name <;> simp

/-- A field that may be absent or null is read as if it were null when it is absent. -/
theorem optionalField_eq_accepted_iff {a : Option α} :
    optionalField members key read = .accepted a ↔ nullable read
      (((members.lookup key.wire).or (members.lookup key.plain)).getD .null) = .accepted a := by
  rw [optionalField, fieldOr_eq_accepted_iff, ← FieldKey.map_snd_find?]
  cases key.find? members with
  | none => simp [nullable]
  | some found => simp

theorem nullable_readText_eq_accepted_iff {value : Json} {s : Option Runes} :
    nullable readText value = .accepted s ↔ value = Json.ofText? s := by
  cases value with
  | null => cases s <;> simp [nullable, Json.ofText?]
  | text t => cases s <;> simp [nullable, readText, Json.ofText?]
  | bool | number | list | object =>
      cases s <;> simp [nullable, readText, Json.ofText?, Checked.fail]

/-- The items of a list are accepted one by one. -/
theorem readItemsFrom_eq_accepted_iff {n : Nat} {items : List Json} {as : List α} :
    readItemsFrom read n items = .accepted as ↔ items.map read = as.map .accepted := by
  induction items generalizing n as with
  | nil => cases as <;> simp [readItemsFrom]
  | cons item rest ih =>
      rw [readItemsFrom, Checked.seq_eq_accepted_iff]
      simp only [Checked.map_eq_accepted_iff, Checked.under_eq_accepted_iff, ih]
      constructor
      · rintro ⟨_, as, ⟨a, ha, rfl⟩, has, rfl⟩
        rw [List.map_cons, List.map_cons, ha, has]
      · intro h
        cases as with
        | nil => cases h
        | cons a as =>
            obtain ⟨ha, has⟩ := List.cons.inj h
            exact ⟨List.cons a, as, ⟨a, ha, rfl⟩, has, rfl⟩

/-- If every item of a list is accepted, there is a list of what they are accepted as. -/
theorem exists_map_accepted {items : List Json} (h : ∀ item ∈ items, ∃ a, read item = .accepted a) :
    ∃ as : List α, items.map read = as.map .accepted := by
  induction items with
  | nil => exact ⟨[], rfl⟩
  | cons item rest ih =>
      obtain ⟨a, ha⟩ := h item List.mem_cons_self
      obtain ⟨as, has⟩ := ih fun other hmem => h other (List.mem_cons_of_mem _ hmem)
      exact ⟨a :: as, by rw [List.map_cons, List.map_cons, ha, has]⟩

theorem readList_eq_accepted_iff {value : Json} {as : List α} :
    readList read value = .accepted as ↔
      ∃ items, value = .list items ∧ items.map read = as.map .accepted := by
  cases value with
  | list items => simp [readList, readItemsFrom_eq_accepted_iff]
  | null | bool | number | text | object => simp [readList, Checked.fail]

end Validation

end DesignBridge
