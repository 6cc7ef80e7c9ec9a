import DesignBridge.Document.Execute

/-! # Defining styles

The definition of a style adds the missing names, its own and that of the style it builds on, sets
what the style says, and leaves all other styles as they are.
-/

namespace DesignBridge

namespace Table

variable {α : Type} {table : Table α} {name : Runes}

theorem mem_keys_iff : name ∈ table.keys ↔ (table.get? name).isSome = true := by
  unfold keys Entries.keys get?
  rw [List.lookup_isSome_iff, List.mem_map]
  simp only [beq_iff_eq, @eq_comm Runes name]

theorem mem_keys_of_get? {value : α} (h : table.get? name = some value) : name ∈ table.keys := by
  rw [mem_keys_iff, h]
  rfl

theorem keys_prefix_insert (table : Table α) (name : Runes) (value : α) :
    table.keys <+: (table.insert name value).keys := by
  rw [keys_insert]
  split
  next => exact List.prefix_rfl
  next => exact List.prefix_append _ _

theorem get?_modify (table : Table α) (name other : Runes) (f : α → α) :
    (table.modify name f).get? other =
      if other = name then (table.get? name).map f else table.get? other := by
  unfold modify
  split
  next value hvalue =>
    rw [hvalue]
    exact get?_insert table name other (f value)
  next hnone =>
    split
    next heq => rw [heq, hnone, Option.map_none]
    next => rfl

theorem keys_modify (table : Table α) (name : Runes) (f : α → α) :
    (table.modify name f).keys = table.keys := by
  unfold modify
  cases hvalue : table.get? name with
  | some value =>
      dsimp only
      rw [keys_insert, if_pos (mem_keys_of_get? hvalue)]
  | none => rfl

end Table

namespace Document

theorem keys_prefix_createStyle (d : Document) (name : Runes) :
    d.styles.keys <+: (d.createStyle name).styles.keys := by
  unfold createStyle
  split
  next => exact List.prefix_rfl
  next => exact d.styles.keys_prefix_insert name .plain

/-- A style that is made is there, as it was or saying nothing. -/
theorem get?_createStyle (d : Document) (name other : Runes) :
    (d.createStyle name).styles.get? other =
      if other = name then some ((d.styles.get? name).getD .plain) else d.styles.get? other := by
  unfold createStyle Table.contains
  split
  next hthere =>
    have hmem : name ∈ d.styles.keys := by simpa using hthere
    obtain ⟨style, hstyle⟩ := Option.isSome_iff_exists.mp (Table.mem_keys_iff.mp hmem)
    split
    next heq => rw [heq, hstyle, Option.getD_some]
    next => rfl
  next hmissing =>
    have hnone : d.styles.get? name = none := by
      cases hstyle : d.styles.get? name with
      | none => rfl
      | some style => exact absurd (by simpa using Table.mem_keys_of_get? hstyle) hmissing
    rw [hnone]
    exact d.styles.get?_insert name other .plain

end Document

namespace Interpreter

open Document

variable (spec : StyleSpec) (d : Document)

/-- Only the styles of a document differ after one was defined. -/
theorem defineStyle_eq :
    defineStyle spec d = { d with styles := (defineStyle spec d).styles } := by
  have hcreate : ∀ (e : Document) (name : Runes),
      e.createStyle name = { e with styles := (e.createStyle name).styles } := by
    intro e name
    unfold createStyle
    split <;> rfl
  unfold defineStyle
  cases Sketch.nonempty? spec.parent with
  | none =>
      dsimp only
      rw [hcreate d]
      rfl
  | some parent =>
      dsimp only
      rw [hcreate (d.createStyle parent), hcreate d]
      rfl

theorem keys_prefix_defineStyle : d.styles.keys <+: (defineStyle spec d).styles.keys := by
  unfold defineStyle
  cases Sketch.nonempty? spec.parent with
  | none =>
      dsimp only [setProperties]
      rw [Table.keys_modify]
      exact keys_prefix_createStyle d spec.name.text
  | some parent =>
      dsimp only [setProperties, setParent]
      rw [Table.keys_modify, Table.keys_modify]
      exact (keys_prefix_createStyle d parent).trans (keys_prefix_createStyle _ spec.name.text)

/-- What a document's styles say after one was defined. -/
theorem get?_defineStyle (name : Runes) :
    (defineStyle spec d).styles.get? name =
      if name = spec.name.text then
        some ⟨spec.properties,
          (Sketch.nonempty? spec.parent).or ((d.styles.get? name).bind (·.parent))⟩
      else if Sketch.nonempty? spec.parent = some name then
        some ((d.styles.get? name).getD .plain)
      else d.styles.get? name := by
  unfold defineStyle
  cases Sketch.nonempty? spec.parent with
  | none =>
      dsimp only [setProperties]
      rw [Table.get?_modify, get?_createStyle, if_pos rfl, get?_createStyle]
      split
      next heq =>
        rw [heq]
        cases d.styles.get? spec.name.text <;> rfl
      next => rfl
  | some parent =>
      dsimp only [setProperties, setParent]
      rw [Table.get?_modify, Table.get?_modify, if_pos rfl, Table.get?_modify, get?_createStyle,
        if_pos rfl, get?_createStyle, get?_createStyle]
      split
      next => rfl
      next hname =>
        rw [get?_createStyle]
        by_cases heq : name = parent
        · rw [heq, if_pos rfl, if_pos rfl]
        · rw [if_neg heq, if_neg fun hsome => heq (Option.some.inj hsome).symm]

/-- Whatever styles build on is defined, also after one more was defined. -/
theorem based_defineStyle
    (h : ∀ name style, d.styles.get? name = some style →
      ∀ parent, style.parent = some parent → parent ∈ d.styles.keys) :
    ∀ name style, (defineStyle spec d).styles.get? name = some style →
      ∀ parent, style.parent = some parent → parent ∈ (defineStyle spec d).styles.keys := by
  have hkept : ∀ name ∈ d.styles.keys, name ∈ (defineStyle spec d).styles.keys :=
    fun name hname => (keys_prefix_defineStyle spec d).subset hname
  intro name style hstyle parent hparent
  rw [get?_defineStyle] at hstyle
  split at hstyle
  next =>
    obtain rfl := Option.some.inj hstyle
    rcases Option.or_eq_some_iff.mp hparent with hown | ⟨_, hbefore⟩
    · rw [Table.mem_keys_iff, get?_defineStyle, if_pos hown]
      split <;> rfl
    · obtain ⟨before, hbefore, hbase⟩ := Option.bind_eq_some_iff.mp hbefore
      exact hkept parent (h name before hbefore parent hbase)
  next =>
    split at hstyle
    next =>
      obtain rfl := Option.some.inj hstyle
      cases hbefore : d.styles.get? name with
      | none =>
          rw [hbefore] at hparent
          cases hparent
      | some before =>
          rw [hbefore] at hparent
          exact hkept parent (h name before hbefore parent hparent)
    next => exact hkept parent (h name style hstyle parent hparent)

end Interpreter

end DesignBridge
