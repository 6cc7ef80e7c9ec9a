import DesignBridge.Design.Operation
import DesignBridge.Proofs.Json.Outline
import DesignBridge.Proofs.Validation.Accepted

/-! # Operations have no numbers

What an operation is read from holds no number that counts: two values with the same outline are
read alike, as an operation or as one of its parts.
-/

namespace DesignBridge

namespace Checked

variable {α β : Type}

theorem value?_map (f : α → β) (x : Checked α) : (f <$> x).value? = x.value?.map f := by
  cases x <;> rfl

theorem value?_seq (f : Checked (α → β)) (x : Checked α) :
    (f <*> x).value? = f.value?.bind fun g => x.value?.map g := by
  cases f with
  | accepted g => cases x <;> rfl
  | rejected issues => rfl

theorem value?_under (part : PathPart) (x : Checked α) : (x.under part).value? = x.value? := by
  cases x <;> rfl

theorem value?_andThen (x : Checked α) (f : α → Checked β) :
    (x.andThen f).value? = x.value?.bind fun a => (f a).value? := by
  cases x <;> rfl

theorem eq_accepted_iff {x : Checked α} {a : α} : x = .accepted a ↔ x.value? = some a := by
  cases x with
  | accepted b => simp [value?]
  | rejected issues => simp [value?]

end Checked

namespace Validation

open Json

variable {α : Type} {read : Json → Checked α}

/-- Whether a reader takes values with one outline alike. -/
def Blind (read : Json → Checked α) : Prop :=
  ∀ v, (read v.outline).value? = (read v).value?

theorem find?_outlineMembers (key : FieldKey) (members : Members) :
    key.find? (outlineMembers members) =
      (key.find? members).map fun found => (found.1, found.2.outline) := by
  unfold FieldKey.find?
  rw [lookup_outlineMembers, lookup_outlineMembers]
  cases members.lookup key.wire with
  | some value => rfl
  | none => cases members.lookup key.plain <;> rfl

theorem Blind.requiredField (h : Blind read) (members : Members) (key : FieldKey) :
    (requiredField (outlineMembers members) key read).value? =
      (requiredField members key read).value? := by
  unfold Validation.requiredField
  rw [find?_outlineMembers]
  cases key.find? members with
  | none => rfl
  | some found => exact (Checked.value?_under ..).trans ((h _).trans (Checked.value?_under ..).symm)

theorem Blind.fieldOr (h : Blind read) (members : Members) (key : FieldKey) (fallback : α) :
    (fieldOr (outlineMembers members) key fallback read).value? =
      (fieldOr members key fallback read).value? := by
  unfold Validation.fieldOr
  rw [find?_outlineMembers]
  cases key.find? members with
  | none => rfl
  | some found => exact (Checked.value?_under ..).trans ((h _).trans (Checked.value?_under ..).symm)

theorem Blind.nullable (h : Blind read) : Blind (nullable read) := by
  intro v
  have hvalue := congrArg (Option.map some) (h v)
  rw [← Checked.value?_map, ← Checked.value?_map] at hvalue
  cases v with
  | null => rfl
  | _ => exact hvalue

theorem Blind.optionalField (h : Blind read) (members : Members) (key : FieldKey) :
    (optionalField (outlineMembers members) key read).value? =
      (optionalField members key read).value? :=
  h.nullable.fieldOr members key none

theorem Blind.record {kind : String} {readFields : Members → Checked α}
    (h : ∀ members, (readFields (outlineMembers members)).value? = (readFields members).value?) :
    Blind (readRecord kind readFields) := by
  intro v
  cases v with
  | object members => exact h members
  | _ => rfl

theorem Blind.readItemsFrom (h : Blind read) (n : Nat) (items : List Json) :
    (readItemsFrom read n (outlineItems items)).value? =
      (readItemsFrom read n items).value? := by
  induction items generalizing n with
  | nil => rfl
  | cons item rest ih =>
      rw [outlineItems, Validation.readItemsFrom, Validation.readItemsFrom]
      simp only [Checked.value?_seq, Checked.value?_map, Checked.value?_under, h item, ih]

theorem Blind.readList (h : Blind read) : Blind (readList read) := by
  intro v
  cases v with
  | list items => exact h.readItemsFrom 0 items
  | _ => rfl

theorem blind_readText : Blind readText := by
  intro v
  cases v <;> rfl

theorem blind_readTextTable : Blind readTextTable := by
  intro v
  cases v with
  | object members =>
      have htexts : (readTexts (outlineMembers members)).value? = (readTexts members).value? := by
        induction members with
        | nil => rfl
        | cons member rest ih =>
            obtain ⟨name, x⟩ := member
            rw [outlineMembers, readTexts, readTexts]
            simp only [Checked.value?_seq, Checked.value?_map, Checked.value?_under,
              blind_readText x, ih]
      rw [outline, readTextTable, readTextTable, Checked.value?_map, htexts, Checked.value?_map]
  | _ => rfl

end Validation

open Validation Json

theorem Label.blind_read : Blind read := by
  intro v
  cases v <;> rfl

theorem ParentChoice.blind_read : Blind read := by
  intro v
  cases v <;> rfl

theorem Attributes.blind_read : Blind read := by
  intro v
  rw [read, read, Checked.value?_andThen, blind_readTextTable v, Checked.value?_andThen]

theorem StyleSpec.blind_read : Blind read := by
  refine Blind.record fun members => ?_
  simp only [readFields, Checked.value?_seq, Checked.value?_map, Label.blind_read.requiredField,
    blind_readTextTable.fieldOr, blind_readText.optionalField]

theorem AssetRef.blind_read : Blind read := by
  refine Blind.record fun members => ?_
  simp only [readFields, Checked.value?_map, blind_readText.optionalField]

theorem Reference.value?_readFields_outline (members : Members) :
    (readFields (outlineMembers members)).value? = (readFields members).value? := by
  simp only [readFields, Checked.value?_seq, Checked.value?_map, Label.blind_read.requiredField,
    blind_readText.optionalField]

theorem Reference.blind_read : Blind read := by
  intro v
  cases v with
  | object members => exact value?_readFields_outline members
  | list items =>
      match items with
      | [] => rfl
      | [oid] => exact value?_readFields_outline [("oid", oid), ("selector", .null)]
      | [oid, selector] => exact value?_readFields_outline [("oid", oid), ("selector", selector)]
      | _ :: _ :: _ :: _ => rfl
  | _ => rfl

namespace Node

mutual

theorem blind_readWithin : ∀ (v : Json) (outer : Nat),
    (readWithin outer v.outline).value? = (readWithin outer v).value?
  | .object members, outer => by
      rw [outline, readWithin, readWithin]
      split
      next => rfl
      next =>
        simp only [Checked.value?_seq, Checked.value?_map, Label.blind_read.requiredField,
          blind_readText.optionalField, Attributes.blind_read.optionalField,
          blind_readTextTable.optionalField, blind_readChildren members (outer + 1)]
  | .null, _ | .bool _, _ | .text _, _ => rfl
  | .number _, outer => by
      rw [outline, readWithin.eq_def, readWithin.eq_def]
      rfl
  | .list _, outer => by rw [outline, readWithin.eq_def, readWithin.eq_def]

theorem blind_readChildren : ∀ (members : Members) (outer : Nat),
    (readChildren outer (outlineMembers members)).value? = (readChildren outer members).value?
  | [], _ => rfl
  | (name, value) :: rest, outer => by
      rw [outlineMembers, readChildren, readChildren]
      split
      next => rw [Checked.value?_under, blind_readList? value outer, Checked.value?_under]
      next => exact blind_readChildren rest outer

theorem blind_readList? : ∀ (v : Json) (outer : Nat),
    (readList? outer v.outline).value? = (readList? outer v).value?
  | .list items, outer => by
      rw [outline, readList?, readList?, Checked.value?_map, Checked.value?_map,
        blind_readItems items outer 0]
  | .null, _ | .bool _, _ | .number _, _ | .text _, _ | .object _, _ => rfl

theorem blind_readItems : ∀ (items : List Json) (outer n : Nat),
    (readItems outer n (outlineItems items)).value? = (readItems outer n items).value?
  | [], _, _ => rfl
  | x :: xs, outer, n => by
      rw [outlineItems, readItems, readItems]
      simp only [Checked.value?_seq, Checked.value?_map, Checked.value?_under,
        blind_readWithin x outer, blind_readItems xs outer (n + 1)]

end

theorem blind_read : Blind read :=
  fun v => blind_readWithin v 0

end Node

namespace Operation

theorem value?_readFields_outline (kind : OperationKind) (members : Members) :
    (readFields kind (outlineMembers members)).value? = (readFields kind members).value? := by
  have htag : Blind (readChoice [(kind.name, ())]) := by
    intro v
    cases v <;> rfl
  have hbody : (readBody (outlineMembers members) kind).value? =
      (readBody members kind).value? := by
    cases kind <;> simp only [readBody, Checked.value?_seq, Checked.value?_map,
      Label.blind_read.requiredField, blind_readText.optionalField, blind_readText.requiredField,
      ParentChoice.blind_read.fieldOr, Node.blind_read.requiredField,
      Reference.value?_readFields_outline, StyleSpec.blind_read.requiredField,
      Reference.blind_read.readList.fieldOr, Reference.blind_read.requiredField,
      AssetRef.blind_read.optionalField]
  simp only [readFields, readTag, Checked.value?_seq, Checked.value?_map, htag.fieldOr, hbody]

theorem blind_read : Blind read := by
  intro v
  cases v with
  | object members =>
      rw [outline, read, read, lookup_outlineMembers]
      cases members.lookup ↑tagField with
      | none => rfl
      | some tag =>
          have hkind : kindOf? tag.outline = kindOf? tag := by cases tag <;> rfl
          dsimp only [Option.map]
          rw [hkind]
          cases kindOf? tag with
          | none => rfl
          | some kind =>
              dsimp only
              rw [Checked.value?_under, value?_readFields_outline, Checked.value?_under]
  | _ => rfl

/-- Values with one outline are read as one operation, if as any. -/
theorem read_eq_accepted_of_outline {v w : Json} (h : w.outline = v.outline)
    {operation : Operation} (hread : read v = .accepted operation) :
    read w = .accepted operation := by
  rw [Checked.eq_accepted_iff, ← blind_read, h, blind_read, ← Checked.eq_accepted_iff]
  exact hread

end Operation

end DesignBridge
