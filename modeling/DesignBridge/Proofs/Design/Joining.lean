import DesignBridge.Proofs.Design.Outline
import DesignBridge.Proofs.Design.WireForm
import DesignBridge.Proofs.Document.Instruction

/-! # Operations are read however their texts are joined

A value that is read as an operation is still read as one when its texts and names are joined, as
they are in text that was written: labels and words have no halves to be joined, and no other name
becomes that of a field.
-/

namespace DesignBridge

namespace Checked

variable {α β : Type}

/-- Whether a check accepts. -/
def isAccepted (x : Checked α) : Bool :=
  x.value?.isSome

theorem isAccepted_iff {x : Checked α} : x.isAccepted = true ↔ ∃ a, x = .accepted a := by
  cases x with
  | accepted a => simp [isAccepted, value?]
  | rejected issues => simp [isAccepted, value?]

@[simp] theorem isAccepted_map (f : α → β) (x : Checked α) :
    (f <$> x).isAccepted = x.isAccepted := by
  cases x <;> rfl

@[simp] theorem isAccepted_seq (f : Checked (α → β)) (x : Checked α) :
    (f <*> x).isAccepted = (f.isAccepted && x.isAccepted) := by
  cases f <;> cases x <;> rfl

@[simp] theorem isAccepted_under (part : PathPart) (x : Checked α) :
    (x.under part).isAccepted = x.isAccepted := by
  cases x <;> rfl

end Checked

namespace Json

theorem Tidy.of_lookup {members : Members} (h : Tidy (.object members)) {name : Runes}
    {value : Json} (hvalue : members.lookup name = some value) : value.Tidy := by
  cases h with
  | object hmembers hkeys => exact hmembers _ ((lookup_eq_some_iff_mem hkeys).mp hvalue)

theorem Tidy.keys {members : Members} (h : Tidy (.object members)) :
    (Entries.keys members).Nodup := by
  cases h with
  | object hmembers hkeys => exact hkeys

/-- What holds of all values as they are joined holds of what is joined. -/
theorem forall_mem_joinedMembers {P : Json → Prop} {members acc : Members}
    (hmembers : ∀ member ∈ members, P member.2.joined) (hacc : ∀ member ∈ acc, P member.2) :
    ∀ member ∈ joinedMembers members acc, P member.2 := by
  induction members generalizing acc with
  | nil => exact hacc
  | cons member rest ih =>
      obtain ⟨name, x⟩ := member
      refine ih (fun m hm => hmembers m (List.mem_cons_of_mem _ hm)) fun m hm => ?_
      rcases Entries.mem_put hm with rfl | hold
      · exact hmembers (name, x) List.mem_cons_self
      · exact hacc m hold

theorem exists_of_mem_keys_joinedMembers {members acc : Members} {name : Runes}
    (h : name ∈ Entries.keys (joinedMembers members acc)) :
    name ∈ Entries.keys acc ∨ ∃ other ∈ Entries.keys members, other.joined = name := by
  induction members generalizing acc with
  | nil => exact .inl h
  | cons member rest ih =>
      obtain ⟨other, x⟩ := member
      rcases ih h with hmem | ⟨another, hanother, hname⟩
      · rw [Entries.keys_put] at hmem
        split at hmem
        next => exact .inl hmem
        next =>
          rcases List.mem_append.mp hmem with hmem | hmem
          · exact .inl hmem
          · exact .inr ⟨other, List.mem_cons_self, (List.mem_singleton.mp hmem).symm⟩
      · exact .inr ⟨another, List.mem_cons_of_mem _ hanother, hname⟩

end Json

/-- Whether both names of a field are in the basic plane, so that they are joined from themselves
alone. -/
def FieldKey.IsBasic (key : FieldKey) : Prop :=
  ∃ wire plain : String, key = ⟨wire, plain⟩ ∧ Runes.isBasic wire = true ∧
    Runes.isBasic plain = true

/-- A field with one name for both has to be looked at once. -/
theorem FieldKey.isBasic_same (name : String) (h : Runes.isBasic name = true := by decide) :
    IsBasic (.same name) :=
  ⟨name, name, rfl, h, h⟩

namespace Validation

open Json

variable {α : Type} {read : Json → Checked α} {members : Members} {key : FieldKey}

/-- Whether a reader that accepts a value accepts it joined as well. -/
def Steady (read : Json → Checked α) : Prop :=
  ∀ v, v.Tidy → (read v).isAccepted = true → (read v.joined).isAccepted = true

theorem find?_joinedMembers (hkey : key.IsBasic) (hmembers : Tidy (.object members)) :
    key.find? (joinedMembers members []) =
      (key.find? members).map fun found => (found.1, found.2.joined) := by
  obtain ⟨wire, plain, rfl, hwire, hplain⟩ := hkey
  unfold FieldKey.find?
  dsimp only
  rw [lookup_joinedMembers hwire hmembers.keys, lookup_joinedMembers hplain hmembers.keys]
  cases members.lookup ↑wire with
  | some value => rfl
  | none => cases members.lookup ↑plain <;> rfl

theorem tidy_of_find? {name : Runes} {value : Json} (hmembers : Tidy (.object members))
    (h : key.find? members = some (name, value)) : value.Tidy := by
  unfold FieldKey.find? at h
  split at h
  next found hfound =>
    obtain ⟨rfl, rfl⟩ := Prod.mk.inj (Option.some.inj h)
    exact hmembers.of_lookup hfound
  next =>
    obtain ⟨found, hfound, heq⟩ := Option.map_eq_some_iff.mp h
    obtain ⟨rfl, rfl⟩ := Prod.mk.inj heq
    exact hmembers.of_lookup hfound

theorem Steady.requiredField (h : Steady read) (hkey : key.IsBasic)
    (hmembers : Tidy (.object members))
    (hread : (requiredField members key read).isAccepted = true) :
    (Validation.requiredField (joinedMembers members []) key read).isAccepted = true := by
  unfold Validation.requiredField at hread ⊢
  rw [find?_joinedMembers hkey hmembers]
  cases hfound : key.find? members with
  | none =>
      rw [hfound] at hread
      cases hread
  | some found =>
      rw [hfound] at hread
      simp only [Checked.isAccepted_under, Option.map_some] at hread ⊢
      exact h _ (tidy_of_find? hmembers hfound) hread

theorem Steady.fieldOr (h : Steady read) (hkey : key.IsBasic)
    (hmembers : Tidy (.object members)) {fallback : α}
    (hread : (fieldOr members key fallback read).isAccepted = true) :
    (Validation.fieldOr (joinedMembers members []) key fallback read).isAccepted = true := by
  unfold Validation.fieldOr at hread ⊢
  rw [find?_joinedMembers hkey hmembers]
  cases hfound : key.find? members with
  | none => rfl
  | some found =>
      rw [hfound] at hread
      simp only [Checked.isAccepted_under, Option.map_some] at hread ⊢
      exact h _ (tidy_of_find? hmembers hfound) hread

theorem Steady.nullable (h : Steady read) : Steady (nullable read) := by
  intro v hv hread
  cases v with
  | null => rfl
  | _ =>
      have hvalue := (Checked.isAccepted_map some _).symm.trans hread
      exact (Checked.isAccepted_map some _).trans (h _ hv hvalue)

theorem Steady.optionalField (h : Steady read) (hkey : key.IsBasic)
    (hmembers : Tidy (.object members))
    (hread : (optionalField members key read).isAccepted = true) :
    (Validation.optionalField (joinedMembers members []) key read).isAccepted = true :=
  h.nullable.fieldOr hkey hmembers hread

theorem Steady.record {kind : String} {readFields : Members → Checked α}
    (h : ∀ members, Tidy (.object members) → (readFields members).isAccepted = true →
      (readFields (joinedMembers members [])).isAccepted = true) :
    Steady (readRecord kind readFields) := by
  intro v hv hread
  cases v with
  | object members => exact h members hv hread
  | _ => cases hread

theorem Steady.readItemsFrom (h : Steady read) {items : List Json} (hitems : ∀ x ∈ items, x.Tidy)
    (n : Nat) (hread : (readItemsFrom read n items).isAccepted = true) :
    (Validation.readItemsFrom read n (joinedItems items)).isAccepted = true := by
  induction items generalizing n with
  | nil => rfl
  | cons item rest ih =>
      rw [Validation.readItemsFrom] at hread
      rw [joinedItems, Validation.readItemsFrom]
      simp only [Checked.isAccepted_seq, Checked.isAccepted_map, Checked.isAccepted_under,
        Bool.and_eq_true] at hread ⊢
      exact ⟨h item (hitems item List.mem_cons_self) hread.1,
        ih (fun x hx => hitems x (List.mem_cons_of_mem _ hx)) (n + 1) hread.2⟩

theorem Steady.readList (h : Steady read) : Steady (readList read) := by
  intro v hv hread
  cases hv with
  | list hitems => exact h.readItemsFrom hitems 0 hread
  | _ => cases hread

theorem steady_readText : Steady readText := by
  intro v _ hread
  cases v with
  | text s => rfl
  | _ => cases hread

/-- Whether a value is a text. -/
def isText (v : Json) : Bool :=
  (readText v).isAccepted

theorem isAccepted_readTexts (members : Members) :
    (readTexts members).isAccepted = members.all fun member => isText member.2 := by
  induction members with
  | nil => rfl
  | cons member rest ih =>
      obtain ⟨name, x⟩ := member
      rw [readTexts, Checked.isAccepted_seq, Checked.isAccepted_map, Checked.isAccepted_under, ih,
        List.all_cons, isText]

theorem keys_readTexts {members : Members} {entries : Entries Runes}
    (h : readTexts members = .accepted entries) : entries.keys = Entries.keys members := by
  induction members generalizing entries with
  | nil =>
      obtain rfl := Checked.accepted.inj h
      rfl
  | cons member rest ih =>
      obtain ⟨name, x⟩ := member
      obtain ⟨s, more, _, hmore, rfl⟩ := Checked.map_seq_eq_accepted_iff.mp h
      exact congrArg (name :: ·) (ih hmore)

theorem steady_readTexts {members : Members} (hmembers : Tidy (.object members))
    (hread : (readTexts members).isAccepted = true) :
    (readTexts (joinedMembers members [])).isAccepted = true := by
  rw [isAccepted_readTexts, List.all_eq_true] at hread ⊢
  cases hmembers with
  | object htidy hkeys =>
      refine forall_mem_joinedMembers (P := fun v => isText v = true) (fun member hmember => ?_)
        nofun
      exact steady_readText _ (htidy member hmember) (hread member hmember)

theorem steady_readTextTable : Steady readTextTable := by
  intro v hv hread
  cases v with
  | object members =>
      rw [readTextTable, Checked.isAccepted_map] at hread
      rw [joined, readTextTable, Checked.isAccepted_map]
      exact steady_readTexts hv hread
  | _ => cases hread

theorem steady_readChoice (choices : List (String × α)) : Steady (readChoice choices) := by
  intro v _ hread
  cases v with
  | text s =>
      -- A word without halves is the same when it is joined.
      have hword : ∃ word : String, s = word := by
        rw [readChoice, readString] at hread
        split at hread
        next word heq => exact ⟨word, Runes.toString?_eq_some.mp heq⟩
        next => cases hread
      obtain ⟨word, rfl⟩ := hword
      have hjoined : (word : Runes).joined = word := Runes.settled_ofString word
      rwa [joined, hjoined]
  | _ => cases hread

end Validation

open Validation Json

theorem Label.steady_read : Steady read := by
  intro v _ hread
  cases v with
  | text s =>
      have hwhole : s.isWhole = true := by
        rw [read, ofText] at hread
        split at hread
        next hwhole => exact hwhole
        next => cases hread
      obtain ⟨word, rfl⟩ := Runes.isWhole_iff.mp hwhole
      have hjoined : (word : Runes).joined = word := Runes.settled_ofString word
      rwa [joined, hjoined]
  | _ => cases hread

theorem ParentChoice.steady_read : Steady read := by
  intro v hv hread
  cases v with
  | text s =>
      rw [read] at hread
      rw [joined, read]
      split
      next => rfl
      next hroot =>
        rw [if_neg fun heq => hroot ((congrArg Runes.joined heq).trans
          (Runes.settled_ofString "pageRoot"))] at hread
        exact steady_readChoice words _ hv hread
  | _ => exact steady_readChoice words _ hv hread

theorem Attributes.isAccepted_read_object (members : Members) :
    (read (.object members)).isAccepted =
      ((readTexts members).isAccepted &&
        !(Entries.keys members).contains identifierAttribute) := by
  rw [read, readTextTable]
  cases hread : readTexts members with
  | rejected issues => rfl
  | accepted entries =>
      rw [Checked.map_accepted, ← keys_readTexts hread]
      have hkeys : (Table.ofList entries).contains identifierAttribute =
          (Entries.keys entries).contains identifierAttribute := by
        rw [Table.contains, Bool.eq_iff_iff, List.contains_iff_mem, List.contains_iff_mem,
          Table.mem_keys_ofList]
      rw [← hkeys]
      show (ofTable (Table.ofList entries)).isAccepted = _
      unfold ofTable
      split
      next hfree => rw [hfree]; rfl
      next hset => rw [Bool.not_eq_false _ |>.mp hset]; rfl

theorem Attributes.steady_read : Steady read := by
  intro v hv hread
  cases v with
  | object members =>
      rw [joined]
      rw [isAccepted_read_object, Bool.and_eq_true] at hread ⊢
      refine ⟨steady_readTexts hv hread.1, ?_⟩
      rw [Bool.not_eq_true', Bool.eq_false_iff] at hread ⊢
      refine fun hset => hread.2 ?_
      rcases exists_of_mem_keys_joinedMembers (List.contains_iff_mem.mp hset) with
        hnone | ⟨other, hother, hname⟩
      · cases hnone
      · obtain rfl := (Runes.joined_eq_iff (by decide)).mp hname
        exact List.contains_iff_mem.mpr hother
  | _ => cases hread

theorem StyleSpec.steady_read : Steady read := by
  refine Steady.record fun members hmembers hread => ?_
  rw [readFields] at hread ⊢
  simp only [Checked.isAccepted_seq, Checked.isAccepted_map, Bool.and_eq_true] at hread ⊢
  obtain ⟨⟨hname, hproperties⟩, hparent⟩ := hread
  exact ⟨⟨Label.steady_read.requiredField (FieldKey.isBasic_same "name") hmembers hname,
    steady_readTextTable.fieldOr (FieldKey.isBasic_same "properties") hmembers hproperties⟩,
    steady_readText.optionalField
      ⟨"parentStyleName", "parent_style_name", rfl, by decide, by decide⟩
      hmembers hparent⟩

theorem AssetRef.steady_read : Steady read := by
  refine Steady.record fun members hmembers hread => ?_
  rw [readFields, Checked.isAccepted_map] at hread ⊢
  exact steady_readText.optionalField ⟨"byId", "by_id", rfl, by decide, by decide⟩ hmembers hread

theorem Reference.isAccepted_readFields {members : Members} (hmembers : Tidy (.object members))
    (hread : (readFields members).isAccepted = true) :
    (readFields (joinedMembers members [])).isAccepted = true := by
  rw [readFields] at hread ⊢
  simp only [Checked.isAccepted_seq, Checked.isAccepted_map, Bool.and_eq_true] at hread ⊢
  exact ⟨Label.steady_read.requiredField (FieldKey.isBasic_same "oid") hmembers hread.1,
    steady_readText.optionalField (FieldKey.isBasic_same "selector") hmembers hread.2⟩

/-- A reference that is given as a list is read like an object. -/
theorem Reference.tidy_listed {oid selector : Json} (hoid : oid.Tidy) (hselector : selector.Tidy) :
    Tidy (.object [("oid", oid), ("selector", selector)]) := by
  refine .object (fun member hmember => ?_) (by simp [Entries.keys])
  simp only [List.mem_cons, List.not_mem_nil, or_false] at hmember
  rcases hmember with rfl | rfl
  · exact hoid
  · exact hselector

theorem Reference.steady_read : Steady read := by
  intro v hv hread
  cases hv with
  | object hmembers hkeys => exact isAccepted_readFields (.object hmembers hkeys) hread
  | text s =>
      have hmembers : Tidy (.object [("oid", .text s)]) :=
        .object (fun member hmember => List.mem_singleton.mp hmember ▸ .text s)
          (by simp [Entries.keys])
      exact isAccepted_readFields hmembers hread
  | @list items hitems =>
      rcases items with _ | ⟨oid, _ | ⟨selector, _ | ⟨other, rest⟩⟩⟩
      · cases hread
      · exact isAccepted_readFields (tidy_listed (hitems oid (by simp)) .null) hread
      · have hoid := hitems oid (by simp)
        exact isAccepted_readFields (tidy_listed hoid (hitems selector (by simp))) hread
      · cases hread
  | _ => cases hread

namespace Node

/-- Whether a value that is read as a node, or as a list of nodes, is still read as one when it is
joined, however many nodes it stands in. -/
structure Steadies (v : Json) : Prop where
  node : ∀ outer, (readWithin outer v).isAccepted = true →
    (readWithin outer v.joined).isAccepted = true
  list : ∀ outer, (readList? outer v).isAccepted = true →
    (readList? outer v.joined).isAccepted = true

theorem Steadies.of_no_node {v : Json} (h : ∀ outer, (readWithin outer v).isAccepted = false)
    (hlist : ∀ outer, (readList? outer v).isAccepted = true →
      (readList? outer v.joined).isAccepted = true) : Steadies v where
  node outer hread := by
    rw [h outer] at hread
    cases hread
  list := hlist

theorem steadies_items {items : List Json} (h : ∀ x ∈ items, Steadies x) (outer n : Nat)
    (hread : (readItems outer n items).isAccepted = true) :
    (readItems outer n (joinedItems items)).isAccepted = true := by
  induction items generalizing n with
  | nil => rfl
  | cons item rest ih =>
      rw [readItems] at hread
      rw [joinedItems, readItems]
      simp only [Checked.isAccepted_seq, Checked.isAccepted_map, Checked.isAccepted_under,
        Bool.and_eq_true] at hread ⊢
      exact ⟨(h item List.mem_cons_self).node outer hread.1,
        ih (fun x hx => h x (List.mem_cons_of_mem _ hx)) (n + 1) hread.2⟩

theorem steadies_children {members : Members} (hmembers : Tidy (.object members))
    (h : ∀ member ∈ members, Steadies member.2) (outer : Nat)
    (hread : (readChildren outer members).isAccepted = true) :
    (readChildren outer (joinedMembers members [])).isAccepted = true := by
  rw [readChildren_eq, fieldOr] at hread ⊢
  rw [find?_joinedMembers (FieldKey.isBasic_same "children") hmembers]
  rw [FieldKey.find?_same] at hread ⊢
  cases hfound : members.lookup ↑"children" with
  | none => rfl
  | some value =>
      rw [hfound] at hread
      simp only [Option.map_some, Checked.isAccepted_under] at hread ⊢
      exact (h _ ((lookup_eq_some_iff_mem hmembers.keys).mp hfound)).list outer hread

/-- By induction on the value: the children of a node stand in a member of it. -/
theorem steadies {v : Json} (hv : v.Tidy) : Steadies v := by
  have hnone : ∀ (v : Json) (outer : Nat), (∀ members, v ≠ .object members) →
      (readWithin outer v).isAccepted = false := by
    intro v outer hv
    rw [readWithin.eq_def]
    split
    next => rfl
    next =>
      split
      next members => exact absurd rfl (hv members)
      next => rfl
  induction hv with
  | null => exact .of_no_node (fun outer => hnone _ outer (by simp)) fun _ _ => rfl
  | bool | number | text =>
      exact .of_no_node (fun outer => hnone _ outer (by simp)) fun _ hread => by cases hread
  | @list items _ ih =>
      refine .of_no_node (fun outer => hnone _ outer (by simp)) fun outer hread => ?_
      rw [readList?, Checked.isAccepted_map] at hread
      rw [joined, readList?, Checked.isAccepted_map]
      exact steadies_items ih outer 0 hread
  | @object members hmembers hkeys ih =>
      refine ⟨fun outer hread => ?_, fun _ hread => by cases hread⟩
      have htidy : Tidy (.object members) := .object hmembers hkeys
      rw [readWithin] at hread
      rw [joined, readWithin]
      split at hread
      next => cases hread
      next hdepth =>
        rw [if_neg hdepth]
        simp only [Checked.isAccepted_seq, Checked.isAccepted_map, Bool.and_eq_true] at hread ⊢
        obtain ⟨⟨⟨⟨⟨htag, hoid⟩, htext⟩, hattributes⟩, hstyles⟩, hchildren⟩ := hread
        exact ⟨⟨⟨⟨⟨Label.steady_read.requiredField (FieldKey.isBasic_same "tag") htidy htag,
          steady_readText.optionalField (FieldKey.isBasic_same "oid") htidy hoid⟩,
          steady_readText.optionalField (FieldKey.isBasic_same "text") htidy htext⟩,
          Attributes.steady_read.optionalField (FieldKey.isBasic_same "attrs") htidy hattributes⟩,
          steady_readTextTable.optionalField (FieldKey.isBasic_same "styles") htidy hstyles⟩,
          steadies_children htidy ih (outer + 1) hchildren⟩

theorem steady_read : Steady read :=
  fun _ hv hread => (steadies hv).node 0 hread

end Node

namespace Operation

theorem isAccepted_readBody {members : Members} (hmembers : Tidy (.object members))
    (kind : OperationKind) (hread : (readBody members kind).isAccepted = true) :
    (readBody (joinedMembers members []) kind).isAccepted = true := by
  cases kind with
  | testConnection => rfl
  | createPage =>
      rw [readBody] at hread ⊢
      simp only [Checked.isAccepted_seq, Checked.isAccepted_map, Bool.and_eq_true] at hread ⊢
      exact ⟨Label.steady_read.requiredField (FieldKey.isBasic_same "name") hmembers hread.1,
        steady_readText.optionalField (FieldKey.isBasic_same "slug") hmembers hread.2⟩
  | buildTree =>
      rw [readBody] at hread ⊢
      simp only [Checked.isAccepted_seq, Checked.isAccepted_map, Bool.and_eq_true] at hread ⊢
      exact ⟨ParentChoice.steady_read.fieldOr (FieldKey.isBasic_same "parent") hmembers hread.1,
        Node.steady_read.requiredField (FieldKey.isBasic_same "tree") hmembers hread.2⟩
  | setText =>
      rw [readBody] at hread ⊢
      simp only [Checked.isAccepted_seq, Checked.isAccepted_map, Bool.and_eq_true] at hread ⊢
      exact ⟨Reference.isAccepted_readFields hmembers hread.1,
        steady_readText.requiredField (FieldKey.isBasic_same "text") hmembers hread.2⟩
  | applyStyle =>
      rw [readBody] at hread ⊢
      simp only [Checked.isAccepted_seq, Checked.isAccepted_map, Bool.and_eq_true] at hread ⊢
      exact ⟨StyleSpec.steady_read.requiredField (FieldKey.isBasic_same "style") hmembers hread.1,
        Reference.steady_read.readList.fieldOr (FieldKey.isBasic_same "oids") hmembers hread.2⟩
  | addImage =>
      rw [readBody] at hread ⊢
      simp only [Checked.isAccepted_seq, Checked.isAccepted_map, Bool.and_eq_true] at hread ⊢
      obtain ⟨⟨hparent, hasset⟩, halt⟩ := hread
      exact ⟨⟨Reference.steady_read.requiredField
          ⟨"parentOid", "parent_oid", rfl, by decide, by decide⟩ hmembers hparent,
        AssetRef.steady_read.optionalField (FieldKey.isBasic_same "asset") hmembers hasset⟩,
        steady_readText.optionalField (FieldKey.isBasic_same "alt") hmembers halt⟩

theorem kindOf?_joined {tag : Json} {kind : OperationKind} (h : kindOf? tag = some kind) :
    kindOf? tag.joined = some kind := by
  cases tag with
  | text s =>
      obtain rfl := OperationKind.name_of_ofName? h
      have hjoined : (kind.name : Runes).joined = kind.name := Runes.settled_ofString _
      rwa [joined, hjoined]
  | _ => cases h

/-- A value that is read as an operation is still read as one when it is joined. -/
theorem steady_read : Steady read := by
  intro v hv hread
  cases v with
  | object members =>
      rw [read] at hread
      rw [joined, read, lookup_joinedMembers (by decide) hv.keys, List.lookup_nil, Option.or_none]
      cases htag : members.lookup ↑tagField with
      | none =>
          rw [htag] at hread
          cases hread
      | some tag =>
          rw [htag] at hread
          dsimp only [Option.map_some] at hread ⊢
          cases hkind : kindOf? tag with
          | none =>
              rw [hkind] at hread
              cases hread
          | some kind =>
              rw [hkind] at hread
              rw [kindOf?_joined hkind]
              simp only [Checked.isAccepted_under, readFields, readTag, Checked.isAccepted_seq,
                Checked.isAccepted_map, Bool.and_eq_true] at hread ⊢
              exact ⟨(steady_readChoice _).fieldOr (FieldKey.isBasic_same tagField) hv hread.1,
                isAccepted_readBody hv kind hread.2⟩
  | _ => cases hread

end Operation

end DesignBridge
