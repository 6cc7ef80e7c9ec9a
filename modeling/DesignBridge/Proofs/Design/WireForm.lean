import DesignBridge.Design.Operation
import DesignBridge.Proofs.Wire.Fields

/-! # Wire forms are read back

The wire form of a reference, a style, an asset, a node or an operation is read as just that value,
whatever in it is null, absent or empty, but for names with halves of surrogate pairs: they come
back as they are shown. For nodes the argument follows the tree, which must not be too deep.
-/

namespace DesignBridge

open Validation View

/-! ## Values with their names shown -/

/-- A text that shows no half is shown only by itself. -/
theorem Runes.eq_of_lossy_eq {r : Runes} {s : String} (h : r.lossy = s) (hs : '\uFFFD' ∉ s.toList) :
    r = s := by
  have hwhole : r.isWhole = true := by
    refine List.all_eq_true.mpr fun rune hrune => ?_
    cases rune with
    | char c => rfl
    | half n =>
        refine absurd ?_ hs
        rw [← h, lossy, String.toList_ofList]
        exact List.mem_flatMap.mpr ⟨_, hrune, List.mem_cons_self⟩
  obtain ⟨t, rfl⟩ := isWhole_iff.mp hwhole
  rw [← h, lossy_ofString]

namespace Attributes

/-- Showing names makes none of them the one that holds identifiers. -/
theorem free_ofShown (attributes : Attributes) :
    (Table.ofShown attributes.table.entries).contains identifierAttribute = false := by
  refine Bool.eq_false_iff.mpr fun hthere => ?_
  obtain ⟨other, hother, heq⟩ :=
    Table.exists_lossy_of_mem_keys_ofShown (List.contains_iff_mem.mp hthere)
  obtain rfl := Runes.eq_of_lossy_eq (Runes.ofString_inj.mp heq).symm (by decide)
  have hthere : attributes.table.contains identifierAttribute = true :=
    List.contains_iff_mem.mpr hother
  rw [attributes.free] at hthere
  cases hthere

def shown (attributes : Attributes) : Attributes :=
  ⟨.ofShown attributes.table.entries, attributes.free_ofShown⟩

theorem shown_eq_self_iff {attributes : Attributes} :
    attributes.shown = attributes ↔ attributes.table.isWhole = true := by
  obtain ⟨table, free⟩ := attributes
  rw [shown, mk.injEq, Table.ofShown_eq_self_iff]

end Attributes

def StyleSpec.shown (spec : StyleSpec) : StyleSpec :=
  { spec with properties := .ofShown spec.properties.entries }

namespace Node

mutual

/-- A node with the names of attributes and styles shown as strings, in the whole tree. -/
def shown : Node → Node
  | ⟨tag, oid, text, attributes, styles, children⟩ =>
    ⟨tag, oid, text, attributes.map Attributes.shown, styles.map fun t => .ofShown t.entries,
      shownChildren children⟩

def shownChildren : Option (List Node) → Option (List Node)
  | none => none
  | some nodes => some (shownItems nodes)

def shownItems : List Node → List Node
  | [] => []
  | node :: rest => shown node :: shownItems rest

end

mutual

/-- Whether no name of an attribute or a style in a tree has halves of surrogate pairs. -/
def hasWholeNames : Node → Bool
  | ⟨_, _, _, attributes, styles, children⟩ =>
    attributes.all (·.table.isWhole) && styles.all Table.isWhole && haveWholeNames? children

def haveWholeNames? : Option (List Node) → Bool
  | none => true
  | some nodes => haveWholeNames nodes

def haveWholeNames : List Node → Bool
  | [] => true
  | node :: rest => hasWholeNames node && haveWholeNames rest

end

end Node

/-- Where each value that may be there is itself under a map, so is none. -/
theorem Option.map_eq_self_iff {α : Type} {f : α → α} {p : α → Bool}
    (h : ∀ a, f a = a ↔ p a = true) {a : Option α} : a.map f = a ↔ a.all p = true := by
  cases a with
  | none => simp
  | some a => simpa using h a

namespace Node

mutual

theorem shown_eq_self_iff : ∀ node : Node, node.shown = node ↔ node.hasWholeNames = true
  | ⟨tag, oid, text, attributes, styles, children⟩ => by
      rw [shown, hasWholeNames, mk.injEq, Bool.and_eq_true, Bool.and_eq_true,
        Option.map_eq_self_iff fun a => a.shown_eq_self_iff,
        Option.map_eq_self_iff fun t => t.ofShown_eq_self_iff, shownChildren_eq_self_iff children]
      simp [and_assoc]

theorem shownChildren_eq_self_iff : ∀ children : Option (List Node),
    shownChildren children = children ↔ haveWholeNames? children = true
  | none => by simp [shownChildren, haveWholeNames?]
  | some nodes => by
      rw [shownChildren, haveWholeNames?, Option.some.injEq, shownItems_eq_self_iff nodes]

theorem shownItems_eq_self_iff : ∀ nodes : List Node,
    shownItems nodes = nodes ↔ haveWholeNames nodes = true
  | [] => by simp [shownItems, haveWholeNames]
  | node :: rest => by
      rw [shownItems, haveWholeNames, List.cons.injEq, Bool.and_eq_true, shown_eq_self_iff node,
        shownItems_eq_self_iff rest]

end

@[simp] theorem isAbsent_shownChildren (children : Option (List Node)) :
    (viewChildren (shownChildren children)).isAbsent = (viewChildren children).isAbsent := by
  cases children <;> rfl

mutual

/-- A node is written like the node with its names shown. -/
theorem wire_shown : ∀ node : Node, node.shown.view.wire = node.view.wire
  | ⟨tag, oid, text, attributes, styles, children⟩ => by
      have hattributes : (ofOption (fun a : Attributes => texts a.table)
          (attributes.map Attributes.shown)).wire =
          (ofOption (fun a => texts a.table) attributes).wire := by
        cases attributes with
        | none => rfl
        | some a => exact wire_texts_ofShown a.table
      have hstyles : (ofOption texts (styles.map fun t => Table.ofShown t.entries)).wire =
          (ofOption texts styles).wire := by
        cases styles with
        | none => rfl
        | some table => exact wire_texts_ofShown table
      have hgiven : (ofOption (fun a : Attributes => texts a.table)
          (attributes.map Attributes.shown)).isAbsent =
          (ofOption (fun a => texts a.table) attributes).isAbsent := by
        cases attributes <;> rfl
      have hstyled : (ofOption texts (styles.map fun t => Table.ofShown t.entries)).isAbsent =
          (ofOption texts styles).isAbsent := by
        cases styles <;> rfl
      simp only [shown, view, fields, wire, wireFields, hattributes, hstyles, hgiven, hstyled,
        isAbsent_shownChildren, wire_shownChildren children]

theorem wire_shownChildren : ∀ children : Option (List Node),
    (viewChildren (shownChildren children)).wire = (viewChildren children).wire
  | none => rfl
  | some nodes => by
      rw [shownChildren, viewChildren, viewChildren, wire, wire, wire_shownItems nodes]

theorem wire_shownItems : ∀ nodes : List Node,
    wireItems (viewItems (shownItems nodes)) = wireItems (viewItems nodes)
  | [] => rfl
  | node :: rest => by
      have hnode : (View.nested node.shown.fields).wire = (View.nested node.fields).wire :=
        wire_shown node
      rw [shownItems, viewItems, viewItems, wireItems, wireItems, hnode, wire_shownItems rest]

end

end Node

namespace Operation

/-- An operation with the names of attributes, styles and properties shown as strings. -/
def shown : Operation → Operation
  | buildTree parent tree => buildTree parent tree.shown
  | applyStyle style targets => applyStyle style.shown targets
  | operation => operation

/-- Whether no such name has halves of surrogate pairs. -/
def hasWholeNames : Operation → Bool
  | buildTree _ tree => tree.hasWholeNames
  | applyStyle style _ => style.properties.isWhole
  | _ => true

theorem shown_eq_self_iff (operation : Operation) :
    operation.shown = operation ↔ operation.hasWholeNames = true := by
  cases operation with
  | buildTree parent tree => simp [shown, hasWholeNames, tree.shown_eq_self_iff]
  | applyStyle style targets =>
      obtain ⟨name, properties, parent⟩ := style
      simp [shown, hasWholeNames, StyleSpec.shown, Table.ofShown_eq_self_iff]
  | createPage | setText | addImage | testConnection => simp [shown, hasWholeNames]

end Operation

/-! ## Records -/

variable {fields : List (FieldKey × View)}

/-- A reference is read back from every record that has its fields. -/
theorem Reference.readFields_wireFields (h : FieldKey.Apart (fields.map Prod.fst))
    {reference : Reference} (hfields : reference.fields ⊆ fields) :
    readFields (wireFields fields) = .accepted reference := by
  have hoid : requiredField (wireFields fields) "oid" Label.read = .accepted reference.oid :=
    requiredField_wireFields h (hfields (.head _)) rfl (Label.read_text reference.oid)
  have hselector : optionalField (wireFields fields) "selector" readText =
      .accepted reference.selector :=
    optionalField_wireFields h (hfields (.tail _ (.head _))) (nullable_wire_text? _)
  rw [readFields, hoid, hselector]
  rfl

theorem Reference.read_wire (reference : Reference) :
    read (View.record reference.fields).wire = .accepted reference := by
  have h : FieldKey.Apart (reference.fields.map Prod.fst) := by
    simp only [Reference.fields, List.map_cons, List.map_nil]
    decide
  rw [wire]
  exact readFields_wireFields h (List.Subset.refl _)

theorem StyleSpec.read_wire (spec : StyleSpec) :
    read (View.record spec.fields).wire = .accepted spec.shown := by
  have h : FieldKey.Apart (spec.fields.map Prod.fst) := by
    simp only [StyleSpec.fields, List.map_cons, List.map_nil]
    decide
  have hname : requiredField (wireFields spec.fields) "name" Label.read = .accepted spec.name :=
    requiredField_wireFields h (.head _) rfl (Label.read_text spec.name)
  have hproperties : fieldOr (wireFields spec.fields) "properties" Table.empty readTextTable =
      .accepted spec.shown.properties :=
    fieldOr_wireFields h (.tail _ (.head _)) (nomatch ·) fun _ => readTextTable_wire _
  have hparent : optionalField (wireFields spec.fields) ⟨"parentStyleName", "parent_style_name"⟩
      readText = .accepted spec.parent :=
    optionalField_wireFields h (.tail _ (.tail _ (.head _))) (nullable_wire_text? _)
  rw [wire, read, readRecord, readFields, hname, hproperties, hparent]
  rfl

theorem AssetRef.read_wire (asset : AssetRef) :
    read (View.record asset.fields).wire = .accepted asset := by
  have h : FieldKey.Apart (asset.fields.map Prod.fst) := by
    simp only [AssetRef.fields, List.map_cons, List.map_nil]
    decide
  have hid : optionalField (wireFields asset.fields) ⟨"byId", "by_id"⟩ readText =
      .accepted asset.id :=
    optionalField_wireFields h (.head _) (nullable_wire_text? _)
  rw [wire, read, readRecord, readFields, hid]
  rfl

theorem ParentChoice.read_name (choice : ParentChoice) :
    read (.text choice.name) = .accepted choice := by
  cases choice <;> decide

theorem Attributes.read_wire (attributes : Attributes) :
    read (View.texts attributes.table).wire = .accepted attributes.shown := by
  rw [read, readTextTable_wire]
  exact ofTable_table attributes.shown

namespace Node

theorem readChildren_eq (outer : Nat) (members : Json.Members) :
    readChildren outer members = fieldOr members "children" none (readList? outer) := by
  induction members with
  | nil => rfl
  | cons member rest ih =>
      obtain ⟨name, value⟩ := member
      rw [readChildren, ih]
      unfold fieldOr
      rw [FieldKey.find?_same, FieldKey.find?_same]
      by_cases hname : name = "children"
      · simp [hname]
      · rw [if_neg hname, List.lookup_cons, beq_false_of_ne (Ne.symm hname)]

theorem children_of_isAbsent {children : Option (List Node)}
    (h : (viewChildren children).isAbsent = true) : none = shownChildren children := by
  cases children with
  | none => rfl
  | some nodes => cases h

/-- Only its children add to how deep a node is. -/
theorem depth_view (tag : Label) (oid text : Option Runes) (attributes : Option Attributes)
    (styles : Option (Table Runes)) (children : Option (List Node)) :
    (Node.mk tag oid text attributes styles children).view.depth =
      (viewChildren children).depth + 1 := by
  have htext : ∀ s, (text? s).depth = 0 := fun s => by cases s <;> rfl
  have hattributes : (ofOption (fun a : Attributes => texts a.table) attributes).depth = 0 := by
    cases attributes <;> rfl
  have hstyles : (ofOption texts styles).depth = 0 := by cases styles <;> rfl
  simp [view, Node.fields, View.depth, depthFields, htext, hattributes, hstyles, Json.depth]

mutual

/-- Showing its names makes a node no deeper. -/
theorem depth_shown : ∀ node : Node, node.shown.view.depth = node.view.depth
  | ⟨tag, oid, text, attributes, styles, children⟩ => by
      rw [shown, depth_view, depth_view, depth_shownChildren children]

theorem depth_shownChildren : ∀ children : Option (List Node),
    (viewChildren (shownChildren children)).depth = (viewChildren children).depth
  | none => rfl
  | some nodes => by
      rw [shownChildren, viewChildren, viewChildren, View.depth, View.depth, depth_shownItems nodes]

theorem depth_shownItems : ∀ nodes : List Node,
    depthItems (viewItems (shownItems nodes)) = depthItems (viewItems nodes)
  | [] => rfl
  | node :: rest => by
      have hnode : (View.nested node.shown.fields).depth = (View.nested node.fields).depth :=
        depth_shown node
      rw [shownItems, viewItems, viewItems, depthItems, depthItems, hnode, depth_shownItems rest]

end

mutual

theorem readWithin_wire : ∀ (node : Node) (outer : Nat), outer + node.view.depth ≤ maxDepth →
    readWithin outer node.view.wire = .accepted node.shown
  | ⟨tag, oid, text, attributes, styles, children⟩, outer, hdepth => by
      rw [depth_view] at hdepth
      have h : FieldKey.Apart ((Node.mk tag oid text attributes styles children).fields.map
          Prod.fst) := by
        simp only [Node.fields, List.map_cons, List.map_nil]
        decide
      have htag := requiredField_wireFields h (.head _) rfl (Label.read_text tag)
      have hoid := optionalField_wireFields h (.tail _ (.head _)) (nullable_wire_text? oid)
      have htext := optionalField_wireFields h (.tail _ (.tail _ (.head _)))
        (nullable_wire_text? text)
      have hattributes := optionalField_wireFields h (.tail _ (.tail _ (.tail _ (.head _))))
        (nullable_wire_ofOption fun a _ => ⟨nofun, Attributes.read_wire a⟩)
      have hstyles := optionalField_wireFields h
        (.tail _ (.tail _ (.tail _ (.tail _ (.head _)))))
        (nullable_wire_ofOption fun table _ => ⟨nofun, readTextTable_wire table⟩)
      have hchildren := fieldOr_wireFields h
        (.tail _ (.tail _ (.tail _ (.tail _ (.tail _ (.head _)))))) children_of_isAbsent
        fun _ => readList?_wire children (outer + 1) (by omega)
      rw [view, wire, readWithin, if_neg (by omega), readChildren_eq, htag, hoid, htext,
        hattributes, hstyles, hchildren]
      rfl

theorem readList?_wire : ∀ (children : Option (List Node)) (outer : Nat),
    outer + (viewChildren children).depth ≤ maxDepth →
    readList? outer (viewChildren children).wire = .accepted (shownChildren children)
  | none, _, _ => rfl
  | some nodes, outer, hdepth => by
      rw [viewChildren, wire, readList?, readItems_wire nodes outer 0 hdepth, Checked.map_accepted]
      rfl

theorem readItems_wire : ∀ (nodes : List Node) (outer n : Nat),
    outer + depthItems (viewItems nodes) ≤ maxDepth →
    readItems outer n (wireItems (viewItems nodes)) = .accepted (shownItems nodes)
  | [], _, _, _ => rfl
  | node :: rest, outer, n, hdepth => by
      have hnode : outer + node.view.depth ≤ maxDepth := by
        rw [viewItems, depthItems] at hdepth
        exact Nat.le_trans (Nat.add_le_add_left (Nat.le_max_left ..) _) hdepth
      have hrest : outer + depthItems (viewItems rest) ≤ maxDepth := by
        rw [viewItems, depthItems] at hdepth
        exact Nat.le_trans (Nat.add_le_add_left (Nat.le_max_right ..) _) hdepth
      have hread : readWithin outer (View.nested node.fields).wire = .accepted node.shown :=
        readWithin_wire node outer hnode
      rw [viewItems, wireItems, readItems, hread, readItems_wire rest outer (n + 1) hrest]
      rfl

end

/-- A tree that is not too deep is read back, with its names as they are shown. -/
theorem read_wire {node : Node} (h : node.view.depth < depthLimit) :
    read node.view.wire = .accepted node.shown :=
  readWithin_wire node 0 (by
    rw [Nat.zero_add]
    exact Nat.le_of_lt_succ h)

end Node

namespace Operation

theorem apart (operation : Operation) : FieldKey.Apart (operation.fields.map Prod.fst) := by
  cases operation <;>
    simp only [fields, bodyFields, Reference.fields, List.map_cons, List.map_nil, List.cons_append,
      List.nil_append] <;> decide

/-- The fields of an operation apart from its kind are read back. -/
theorem readBody_wireFields {operation : Operation}
    (hdepth : depthFields operation.fields < depthLimit) :
    readBody (wireFields operation.fields) operation.kind = .accepted operation.shown := by
  have h := operation.apart
  cases operation with
  | createPage name slug =>
      have hname := requiredField_wireFields h (.tail _ (.head _)) rfl (Label.read_text name)
      have hslug := optionalField_wireFields h (.tail _ (.tail _ (.head _)))
        (nullable_wire_text? slug)
      rw [kind, readBody, hname, hslug]
      rfl
  | buildTree parent tree =>
      have hparent : fieldOr (wireFields (buildTree parent tree).fields) "parent" .selected
          ParentChoice.read = .accepted parent :=
        fieldOr_wireFields h (.tail _ (.head _)) nofun fun _ => ParentChoice.read_name parent
      have hfields : depthFields (buildTree parent tree).fields = tree.view.depth := by
        simp [Operation.fields, bodyFields, depthFields, depth, Json.depth]
      have htree := requiredField_wireFields h (.tail _ (.tail _ (.head _))) rfl
        (Node.read_wire (hfields ▸ hdepth))
      rw [kind, readBody, hparent, htree]
      rfl
  | setText target text =>
      have htarget := Reference.readFields_wireFields h
        (fun field hmem => .tail _ (List.mem_append_left _ hmem) :
          target.fields ⊆ (setText target text).fields)
      have htext := requiredField_wireFields h (.tail _ (.tail _ (.tail _ (.head _)))) rfl
        (rfl : readText (View.value (.text text)).wire = .accepted text)
      rw [kind, readBody, htarget, htext]
      rfl
  | applyStyle style targets =>
      have hstyle := requiredField_wireFields h (.tail _ (.head _)) rfl style.read_wire
      have htargets : fieldOr (wireFields (applyStyle style targets).fields) "oids" []
          (readList Reference.read) = .accepted targets := by
        refine fieldOr_wireFields h (.tail _ (.tail _ (.head _))) nofun fun _ => ?_
        rw [readList_wire (f := id) fun reference _ => reference.read_wire, List.map_id]
      rw [kind, readBody, hstyle, htargets]
      rfl
  | addImage parent asset alt =>
      have hparent := requiredField_wireFields h (.tail _ (.head _)) rfl parent.read_wire
      have hasset := optionalField_wireFields h (.tail _ (.tail _ (.head _)))
        (nullable_wire_ofOption (f := id) fun a _ => ⟨nofun, AssetRef.read_wire a⟩)
      have halt := optionalField_wireFields h (.tail _ (.tail _ (.tail _ (.head _))))
        (nullable_wire_text? alt)
      rw [kind, readBody, hparent, hasset, halt, Option.map_id_fun, id]
      rfl
  | testConnection => rfl

theorem read_wire {operation : Operation} (h : (View.record operation.fields).depth < depthLimit) :
    read (View.record operation.fields).wire = .accepted operation.shown := by
  have hlookup : (wireFields operation.fields).lookup ↑tagField =
      some (.text operation.kind.name) := rfl
  have hchoice : readChoice [(operation.kind.name, ())] (.text operation.kind.name) =
      .accepted () := by
    rw [readChoice, readString_ofString, List.lookup_cons_self]
  have htag : readTag operation.kind (wireFields operation.fields) = .accepted () :=
    fieldOr_wireFields operation.apart (.head _) (fun _ => rfl) fun _ => hchoice
  have hkind : kindOf? (.text operation.kind.name) = some operation.kind :=
    OperationKind.ofName?_name operation.kind
  rw [wire, read, hlookup]
  dsimp only
  rw [hkind]
  dsimp only
  rw [readFields, htag, readBody_wireFields h]
  rfl

/-- An operation is written like the operation with its names shown. -/
theorem wire_shown (operation : Operation) :
    (View.record operation.shown.fields).wire = (View.record operation.fields).wire := by
  cases operation with
  | buildTree parent tree =>
      simp only [shown, fields, kind, bodyFields, wire, wireFields, tree.wire_shown]
      rfl
  | applyStyle style targets =>
      have hstyle : (View.record style.shown.fields).wire = (View.record style.fields).wire := by
        rw [wire, wire]
        simp only [StyleSpec.shown, StyleSpec.fields, wireFields,
          wire_texts_ofShown style.properties]
        rfl
      rw [wire, wire]
      simp only [shown, fields, kind, bodyFields, wireFields, hstyle]
      rfl
  | createPage | setText | addImage | testConnection => rfl

/-- It is no deeper either. -/
theorem depth_shown (operation : Operation) :
    (View.record operation.shown.fields).depth = (View.record operation.fields).depth := by
  cases operation with
  | buildTree parent tree =>
      simp only [shown, fields, kind, bodyFields, View.depth, depthFields, tree.depth_shown]
  | applyStyle | createPage | setText | addImage | testConnection => rfl

end Operation

end DesignBridge
