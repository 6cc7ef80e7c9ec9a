import DesignBridge.Proofs.Validation.Accepted
import DesignBridge.Wire.Record
import Mathlib.Data.List.Nodup

/-! # Fields that were written

The wire form of a record holds the fields that hold something, each under its wire name. As long as
no field goes by a wire name of another, every field is found there again, and found absent where
nothing was written.
-/

namespace DesignBridge

/-- Keys that are told apart in a wire form: none goes by the wire name of another. -/
def FieldKey.Apart (keys : List FieldKey) : Prop :=
  (keys.map wire).Nodup ∧ ∀ key ∈ keys, key.plain = key.wire ∨ key.plain ∉ keys.map wire

instance (keys : List FieldKey) : Decidable (FieldKey.Apart keys) :=
  inferInstanceAs (Decidable (_ ∧ _))

/-! ## Named texts -/

namespace Json

theorem texts_cons (name s : Runes) (rest : Entries Runes) :
    texts ((name, s) :: rest) = (name, .text s) :: texts rest := rfl

theorem texts_put (entries : Entries Runes) (name s : Runes) :
    texts (entries.put name s) = Entries.put (texts entries) name (.text s) := by
  induction entries with
  | nil => rfl
  | cons entry rest ih =>
      obtain ⟨other, old⟩ := entry
      rw [texts_cons, Entries.put, Entries.put]
      split
      next => rfl
      next => rw [texts_cons, ih]

theorem texts_insertAll {table : Table Runes} {written : Table Json}
    (h : written.entries = texts table.entries) (entries : Entries Runes) :
    (written.insertAll (texts entries)).entries = texts (table.insertAll entries).entries := by
  induction entries generalizing table written with
  | nil => exact h
  | cons entry rest ih =>
      obtain ⟨name, s⟩ := entry
      refine ih ?_
      calc (written.insert name (.text s)).entries
          = Entries.put (texts table.entries) name (.text s) := by rw [← h]; rfl
        _ = texts (table.insert name s).entries := (texts_put ..).symm

/-- It makes no difference whether names are shown before or after their texts become values. -/
theorem texts_ofShown (entries : Entries Runes) :
    (Table.ofShown (texts entries)).entries = texts (Table.ofShown entries).entries := by
  have hempty : (Table.empty : Table Json).entries = texts (Table.empty : Table Runes).entries :=
    rfl
  refine Eq.trans ?_ (texts_insertAll hempty _)
  rw [Table.ofShown, texts, texts, List.map_map, List.map_map]
  rfl

end Json

namespace Table

variable {α : Type}

theorem mem_keys_insertAll {table : Table α} {entries : Entries α} {name : Runes} :
    name ∈ (table.insertAll entries).keys ↔ name ∈ table.keys ∨ name ∈ entries.keys := by
  induction entries generalizing table with
  | nil => exact (or_iff_left List.not_mem_nil).symm
  | cons entry rest ih =>
      obtain ⟨other, value⟩ := entry
      have hput : name ∈ (table.insert other value).keys ↔ name ∈ table.keys ∨ name = other := by
        rw [keys_insert]
        split
        next hmem => exact (or_iff_left_of_imp fun heq => heq ▸ hmem).symm
        next => rw [List.mem_append, List.mem_singleton]
      calc name ∈ ((table.insert other value).insertAll rest).keys
          ↔ (name ∈ table.keys ∨ name = other) ∨ name ∈ Entries.keys rest :=
            ih.trans (or_congr_left hput)
        _ ↔ name ∈ table.keys ∨ name ∈ Entries.keys ((other, value) :: rest) := by
          rw [or_assoc, Entries.keys, Entries.keys, List.map_cons, List.mem_cons]

theorem mem_keys_ofList {entries : Entries α} {name : Runes} :
    name ∈ (ofList entries).keys ↔ name ∈ entries.keys :=
  mem_keys_insertAll.trans (or_iff_right List.not_mem_nil)

/-- Whether no name of a table has halves of surrogate pairs. -/
def isWhole (table : Table α) : Bool :=
  table.keys.all Runes.isWhole

theorem exists_lossy_of_mem_keys_ofShown {entries : Entries α} {name : Runes}
    (h : name ∈ (ofShown entries).keys) : ∃ other ∈ entries.keys, name = (other.lossy : Runes) := by
  rw [ofShown, mem_keys_ofList, Entries.keys, List.map_map] at h
  obtain ⟨entry, hentry, rfl⟩ := List.mem_map.mp h
  exact ⟨entry.1, List.mem_map_of_mem hentry, rfl⟩

theorem isWhole_ofShown (entries : Entries α) : (ofShown entries).isWhole = true := by
  refine List.all_eq_true.mpr fun name hname => ?_
  obtain ⟨other, _, rfl⟩ := exists_lossy_of_mem_keys_ofShown hname
  exact Runes.isWhole_ofString _

theorem ofShown_of_isWhole {table : Table α} (h : table.isWhole = true) :
    ofShown table.entries = table := by
  refine Eq.trans (congrArg ofList ?_) (ofList_entries table)
  refine (List.map_congr_left fun entry hentry => ?_).trans (List.map_id _)
  have hname : entry.1.isWhole = true :=
    List.all_eq_true.mp h entry.1 (List.mem_map_of_mem hentry)
  obtain ⟨s, hs⟩ := Runes.isWhole_iff.mp hname
  obtain ⟨name, value⟩ := entry
  obtain rfl : name = s := hs
  exact congrArg (fun name => ((Runes.ofString name), value)) (Runes.lossy_ofString s)

/-- A table is its own shown form just if its names have no halves. -/
theorem ofShown_eq_self_iff {table : Table α} :
    ofShown table.entries = table ↔ table.isWhole = true :=
  ⟨fun h => h ▸ isWhole_ofShown table.entries, ofShown_of_isWhole⟩

end Table

/-! ## Fields -/

namespace View

theorem wireItems_eq_map (views : List View) : wireItems views = views.map wire := by
  induction views with
  | nil => rw [wireItems, List.map_nil]
  | cons view rest ih => rw [wireItems, ih, List.map_cons]

theorem wireFields_eq_map (fields : List (FieldKey × View)) :
    wireFields fields = (fields.filter fun field => !field.2.isAbsent).map
      fun field => (field.1.wire, field.2.wire) := by
  induction fields with
  | nil => rw [wireFields, List.filter_nil, List.map_nil]
  | cons field rest ih =>
      obtain ⟨key, view⟩ := field
      rw [wireFields, ih]
      cases habsent : view.isAbsent <;> simp [habsent]

/-- The names of written fields are among the names of the fields, in order. -/
theorem keys_wireFields (fields : List (FieldKey × View)) :
    (Entries.keys (wireFields fields)).Sublist (fields.map fun field => field.1.wire) := by
  rw [wireFields_eq_map, Entries.keys, List.map_map]
  exact List.filter_sublist.map _

theorem wire_of_isAbsent {v : View} (h : v.isAbsent = true) : v.wire = .null := by
  unfold isAbsent at h
  split at h
  next => rfl
  next => cases h

variable {fields : List (FieldKey × View)} {key : FieldKey} {v : View}

/-- A field that was written is found, and one that holds nothing is not. -/
theorem find?_wireFields (h : FieldKey.Apart (fields.map Prod.fst)) (hmem : (key, v) ∈ fields) :
    key.find? (wireFields fields) = if v.isAbsent then none else some (key.wire, v.wire) := by
  have hnames : (fields.map fun field => field.1.wire).Nodup := by
    have hwire := h.1
    rwa [List.map_map] at hwire
  have hkeys : (Entries.keys (wireFields fields)).Nodup := (keys_wireFields fields).nodup hnames
  unfold FieldKey.find?
  cases habsent : v.isAbsent with
  | false =>
      have hwritten : (key.wire, v.wire) ∈ wireFields fields := by
        rw [wireFields_eq_map]
        exact List.mem_map.mpr ⟨(key, v), List.mem_filter.mpr ⟨hmem, by simp [habsent]⟩, rfl⟩
      rw [lookup_of_mem hkeys hwritten]
      rfl
  | true =>
      have hwire : (wireFields fields).lookup key.wire = none := by
        rw [List.lookup_eq_none_iff]
        intro entry hentry
        rw [wireFields_eq_map] at hentry
        obtain ⟨field, hfield, rfl⟩ := List.mem_map.mp hentry
        obtain ⟨hfield, hpresent⟩ := List.mem_filter.mp hfield
        rw [bne_iff_ne]
        intro heq
        obtain rfl := List.inj_on_of_nodup_map hnames hmem hfield heq
        simp [habsent] at hpresent
      have hplain : (wireFields fields).lookup key.plain = none := by
        rcases h.2 key (List.mem_map.mpr ⟨(key, v), hmem, rfl⟩) with hsame | hother
        · rw [hsame, hwire]
        · rw [List.lookup_eq_none_iff]
          intro entry hentry
          rw [bne_iff_ne]
          intro heq
          refine hother ?_
          rw [heq, List.map_map]
          exact (keys_wireFields fields).subset (List.mem_map_of_mem hentry)
      rw [hwire, hplain]
      rfl

section

open Validation

variable {α : Type} {read : Json → Checked α} {a : α}

theorem requiredField_wireFields (h : FieldKey.Apart (fields.map Prod.fst))
    (hmem : (key, v) ∈ fields) (hpresent : v.isAbsent = false) (hread : read v.wire = .accepted a) :
    requiredField (wireFields fields) key read = .accepted a := by
  rw [requiredField_eq_accepted_iff, find?_wireFields h hmem, hpresent]
  exact ⟨_, rfl, hread⟩

theorem fieldOr_wireFields (h : FieldKey.Apart (fields.map Prod.fst)) (hmem : (key, v) ∈ fields)
    {fallback : α} (hpresent : v.isAbsent = true → fallback = a)
    (hread : v.isAbsent = false → read v.wire = .accepted a) :
    fieldOr (wireFields fields) key fallback read = .accepted a := by
  rw [fieldOr_eq_accepted_iff, find?_wireFields h hmem]
  cases habsent : v.isAbsent with
  | true => exact .inr ⟨rfl, hpresent habsent⟩
  | false => exact .inl ⟨_, rfl, hread habsent⟩

/-- A field that may be null is read back also when it was left out for that. -/
theorem optionalField_wireFields (h : FieldKey.Apart (fields.map Prod.fst))
    (hmem : (key, v) ∈ fields) {a : Option α} (hread : nullable read v.wire = .accepted a) :
    optionalField (wireFields fields) key read = .accepted a := by
  refine fieldOr_wireFields h hmem (fun habsent => ?_) fun _ => hread
  rw [wire_of_isAbsent habsent] at hread
  exact Checked.accepted.inj hread

/-- A value that may be absent is read back if it is read back when it is there. -/
theorem nullable_wire_ofOption {view : α → View} {f : α → α} {a : Option α}
    (h : ∀ b ∈ a, (view b).wire ≠ .null ∧ read (view b).wire = .accepted (f b)) :
    nullable read (ofOption view a).wire = .accepted (a.map f) := by
  cases a with
  | none => rfl
  | some b =>
      obtain ⟨hnull, hread⟩ := h b rfl
      rw [ofOption, nullable, hread]
      · rfl
      · exact hnull

theorem nullable_wire_text? (s : Option Runes) :
    nullable readText (text? s).wire = .accepted s := by
  cases s <;> rfl

theorem readTexts_texts (entries : Entries Runes) :
    readTexts (Json.texts entries) = .accepted entries := by
  induction entries with
  | nil => rfl
  | cons entry rest ih =>
      rw [Json.texts, List.map_cons, readTexts, ← Json.texts, ih]
      rfl

theorem wire_texts (table : Table Runes) :
    (texts table).wire = .object (Json.texts (Table.ofShown table.entries).entries) := by
  rw [wire, Json.texts_ofShown]

/-- Names that are shown are written like those that they show. -/
theorem wire_texts_ofShown (table : Table Runes) :
    (texts (Table.ofShown table.entries)).wire = (texts table).wire := by
  rw [wire_texts, wire_texts, Table.ofShown_of_isWhole (Table.isWhole_ofShown _)]

/-- Named texts are read back under their names, as these are shown. -/
theorem readTextTable_wire (table : Table Runes) :
    readTextTable (texts table).wire = .accepted (Table.ofShown table.entries) := by
  rw [wire_texts, readTextTable, readTexts_texts, Checked.map_accepted, Table.ofList_entries]

/-- The records of a list are read back if every one of them is. -/
theorem readList_wire {view : α → View} {f : α → α} {items : List α}
    (h : ∀ b ∈ items, read (view b).wire = .accepted (f b)) :
    readList read (list (items.map view)).wire = .accepted (items.map f) := by
  rw [readList_eq_accepted_iff]
  refine ⟨(items.map view).map wire, by rw [wire, wireItems_eq_map], ?_⟩
  rw [List.map_map, List.map_map, List.map_map]
  exact List.map_congr_left h

end

end View

end DesignBridge
