import DesignBridge.Text.Rune

/-! # Tables in insertion order

A table maps names to values and remembers in which order the names came. Setting a name that is
there keeps its place; a new name goes to the end. `Entries` is the plain list of pairs, and
`Table` adds that the names are distinct.
-/

namespace DesignBridge

/-- Where every name stands once, a value is found by its name. -/
theorem lookup_of_mem {α β : Type} [BEq α] [LawfulBEq α] {entries : List (α × β)}
    (h : (entries.map Prod.fst).Nodup) {name : α} {value : β} (hmem : (name, value) ∈ entries) :
    entries.lookup name = some value := by
  obtain ⟨front, back, rfl⟩ := List.append_of_mem hmem
  refine List.lookup_eq_some_iff.mpr ⟨front, back, rfl, fun entry hfront => ?_⟩
  rw [List.map_append, List.nodup_append] at h
  have hne := h.2.2 entry.1 (List.mem_map_of_mem hfront) name (by simp)
  simpa using Ne.symm hne

/-- So an entry is there just if it is found. -/
theorem lookup_eq_some_iff_mem {α β : Type} [BEq α] [LawfulBEq α] {entries : List (α × β)}
    (h : (entries.map Prod.fst).Nodup) {name : α} {value : β} :
    entries.lookup name = some value ↔ (name, value) ∈ entries := by
  refine ⟨fun hfound => ?_, lookup_of_mem h⟩
  obtain ⟨front, back, rfl, _⟩ := List.lookup_eq_some_iff.mp hfound
  simp

/-- Named values in order. Names are texts, unless another type of names is given. -/
abbrev Entries (α : Type) (κ : Type := Runes) := List (κ × α)

namespace Entries

variable {α κ : Type}

/-- The names, in order. -/
def keys (entries : Entries α κ) : List κ :=
  entries.map Prod.fst

variable [DecidableEq κ]

/-- Sets the value under a name. -/
def put : Entries α κ → κ → α → Entries α κ
  | [], name, value => [(name, value)]
  | (other, old) :: rest, name, value =>
    if other = name then (name, value) :: rest else (other, old) :: put rest name value

/-- Drops the value under a name. -/
def erase (entries : Entries α κ) (name : κ) : Entries α κ :=
  entries.filter fun (other, _) => other != name

theorem nodup_keys_erase {entries : Entries α κ} (h : entries.keys.Nodup) (name : κ) :
    (entries.erase name).keys.Nodup :=
  (List.filter_sublist.map Prod.fst).nodup h

theorem keys_put (entries : Entries α κ) (name : κ) (value : α) :
    (put entries name value).keys =
      if name ∈ entries.keys then entries.keys else entries.keys ++ [name] := by
  induction entries with
  | nil => simp [put, keys]
  | cons head rest ih =>
    obtain ⟨other, old⟩ := head
    by_cases h : other = name
    · simp [put, keys, h]
    · simp only [put, h, if_false, keys, List.map_cons, List.mem_cons] at ih ⊢
      rw [ih]
      have h' : ¬name = other := fun heq => h heq.symm
      by_cases hm : name ∈ rest.map Prod.fst <;> simp [hm, h']

theorem nodup_keys_put {entries : Entries α κ} (h : entries.keys.Nodup) (name : κ)
    (value : α) : (put entries name value).keys.Nodup := by
  rw [keys_put]
  split
  next => exact h
  next hnot =>
    refine List.nodup_append.mpr ⟨h, by simp, ?_⟩
    intro a ha b hb heq
    simp only [List.mem_singleton] at hb
    exact hnot (by rw [← hb, ← heq]; exact ha)

theorem put_of_not_mem {entries : Entries α κ} {name : κ}
    (h : name ∉ entries.keys) (value : α) :
    entries.put name value = entries ++ [(name, value)] := by
  induction entries with
  | nil => rfl
  | cons head rest ih =>
      obtain ⟨other, old⟩ := head
      have hname : name ≠ other := fun heq => h (heq ▸ List.mem_cons_self)
      have hrest : name ∉ Entries.keys rest := fun hmem => h (List.mem_cons_of_mem _ hmem)
      rw [Entries.put, if_neg (Ne.symm hname), ih hrest, List.cons_append]

theorem lookup_put (entries : Entries α κ) (name other : κ) (value : α) :
    (put entries name value).lookup other =
      if other = name then some value else entries.lookup other := by
  induction entries with
  | nil =>
    by_cases h : other = name
    · simp [put, h]
    · have hb : (other == name) = false := by simp [h]
      simp [put, List.lookup_cons, hb, h]
  | cons head rest ih =>
    obtain ⟨key, old⟩ := head
    by_cases hk : key = name
    · subst hk
      by_cases h : other = key
      · simp [put, h]
      · have hb : (other == key) = false := by simp [h]
        simp [put, List.lookup_cons, hb, h]
    · by_cases h : other = key
      · subst h
        simp [put, hk]
      · have hb : (other == key) = false := by simp [h]
        simp only [put, hk, if_false, List.lookup_cons, hb]
        exact ih

theorem mem_put {entries : Entries α κ} {name : κ} {value : α}
    {entry : κ × α} (h : entry ∈ entries.put name value) :
    entry = (name, value) ∨ entry ∈ entries := by
  induction entries with
  | nil => exact Or.inl (List.mem_singleton.mp h)
  | cons head rest ih =>
      obtain ⟨other, old⟩ := head
      unfold Entries.put at h
      split at h
      next =>
        rcases List.mem_cons.mp h with rfl | h
        · exact Or.inl rfl
        · exact Or.inr (List.mem_cons_of_mem _ h)
      next =>
        rcases List.mem_cons.mp h with rfl | h
        · exact Or.inr (List.mem_cons_self ..)
        · exact (ih h).imp_right (List.mem_cons_of_mem _)

theorem mem_put_iff {entries : Entries α κ} (h : entries.keys.Nodup) {name other : κ}
    {value new : α} : (name, value) ∈ entries.put other new ↔
      name = other ∧ value = new ∨ name ≠ other ∧ (name, value) ∈ entries := by
  rw [← lookup_eq_some_iff_mem (nodup_keys_put h other new), lookup_put,
    ← lookup_eq_some_iff_mem h]
  by_cases hname : name = other <;> simp [hname, eq_comm]

end Entries

/-- Named values with distinct names, in the order in which the names were first set. -/
structure Table (α : Type) (κ : Type := Runes) where
  entries : Entries α κ
  nodup : entries.keys.Nodup
  deriving DecidableEq

namespace Table

variable {α κ : Type}

/-- The table without entries. -/
def empty : Table α κ := ⟨[], List.nodup_nil⟩

instance : Inhabited (Table α κ) := ⟨empty⟩

/-- The names, in order. -/
def keys (table : Table α κ) : List κ :=
  table.entries.keys

/-- Whether nothing is set. -/
def isEmpty (table : Table α κ) : Bool :=
  table.entries.isEmpty

theorem ext_entries {s t : Table α κ} (h : s.entries = t.entries) : s = t := by
  cases s
  cases t
  simpa using h

variable [DecidableEq κ]

def get? (table : Table α κ) (name : κ) : Option α :=
  table.entries.lookup name

/-- Whether a name is set. -/
def contains (table : Table α κ) (name : κ) : Bool :=
  table.keys.contains name

def insert (table : Table α κ) (name : κ) (value : α) : Table α κ :=
  ⟨table.entries.put name value, Entries.nodup_keys_put table.nodup name value⟩

/-- Sets many values, the later ones over the earlier ones. -/
def insertAll (table : Table α κ) (entries : Entries α κ) : Table α κ :=
  entries.foldl (fun t (name, value) => t.insert name value) table

/-- The table of a list of entries; of two with one name the later value counts. -/
def ofList (entries : Entries α κ) : Table α κ :=
  empty.insertAll entries

/-- Applies a function to the value under a name, if it is set. -/
def modify (table : Table α κ) (name : κ) (f : α → α) : Table α κ :=
  match table.get? name with
  | some value => table.insert name (f value)
  | none => table

/-- Drops the value under a name. -/
def erase (table : Table α κ) (name : κ) : Table α κ :=
  ⟨Entries.erase table.entries name, Entries.nodup_keys_erase table.nodup name⟩

theorem get?_insert (table : Table α κ) (name other : κ) (value : α) :
    (table.insert name value).get? other =
      if other = name then some value else table.get? other :=
  Entries.lookup_put table.entries name other value

theorem keys_insert (table : Table α κ) (name : κ) (value : α) :
    (table.insert name value).keys =
      if name ∈ table.keys then table.keys else table.keys ++ [name] :=
  Entries.keys_put table.entries name value

theorem entries_insertAll {table : Table α κ} {entries : Entries α κ}
    (h : (table.keys ++ entries.keys).Nodup) :
    (table.insertAll entries).entries = table.entries ++ entries := by
  induction entries generalizing table with
  | nil => exact (List.append_nil _).symm
  | cons head rest ih =>
      obtain ⟨name, value⟩ := head
      have hnew : name ∉ table.entries.keys := fun hmem =>
        (List.nodup_append.mp h).2.2 name hmem name List.mem_cons_self rfl
      have hput : (table.insert name value).entries = table.entries ++ [(name, value)] :=
        Entries.put_of_not_mem hnew value
      have hkeys : (table.insert name value).keys = table.keys ++ [name] := by
        rw [keys_insert]
        exact if_neg hnew
      have hrest : (table.insertAll ((name, value) :: rest)).entries =
          (table.insert name value).entries ++ rest := ih (by simpa [hkeys, Entries.keys] using h)
      rw [hrest, hput, List.append_assoc, List.singleton_append]

/-- The entries of a table make that table. -/
theorem ofList_entries (table : Table α κ) : ofList table.entries = table := by
  have hentries : (empty.insertAll table.entries).entries = [] ++ table.entries :=
    entries_insertAll table.nodup
  exact ext_entries hentries

/-- The table of a list of entries with their names shown as strings. Names that look alike then
become one. -/
def ofShown (entries : Entries α) : Table α :=
  ofList (entries.map fun (name, value) => ((name.lossy : Runes), value))

end Table

end DesignBridge
