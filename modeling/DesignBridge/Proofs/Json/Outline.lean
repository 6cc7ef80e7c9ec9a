import DesignBridge.Proofs.Json.Source

/-! # Outlines

The outline of a value has everything of it but which numbers there are. Text holds the outline of
a value whatever becomes of its numbers, with every two halves of one pair that stand side by side
made one character. Where there are none and the names in every object are distinct, as they are in
a value that came as text, that is the outline of the value itself.
-/

namespace DesignBridge.Json

mutual

/-- A value without what its numbers are. -/
def outline : Json → Json
  | .number _ => .int 0
  | .list items => .list (outlineItems items)
  | .object members => .object (outlineMembers members)
  | value => value

def outlineItems : List Json → List Json
  | [] => []
  | x :: xs => outline x :: outlineItems xs

def outlineMembers : Members → Members
  | [] => []
  | (name, x) :: rest => (name, outline x) :: outlineMembers rest

end

mutual

/-- A value with its texts and names joined. Names that become one keep the last value. -/
def joined : Json → Json
  | .text s => .text s.joined
  | .list items => .list (joinedItems items)
  | .object members => .object (joinedMembers members [])
  | value => value

def joinedItems : List Json → List Json
  | [] => []
  | x :: xs => joined x :: joinedItems xs

/-- `joined` for the members of an object, after those in the second argument. -/
def joinedMembers : Members → Members → Members
  | [], acc => acc
  | (name, x) :: rest, acc => joinedMembers rest (acc.put name.joined (joined x))

end

theorem joinedItems_eq_map (items : List Json) : joinedItems items = items.map joined := by
  induction items with
  | nil => rfl
  | cons x xs ih => rw [joinedItems, ih, List.map_cons]

theorem lookup_outlineMembers (members : Members) (name : Runes) :
    (outlineMembers members).lookup name = (members.lookup name).map outline := by
  induction members with
  | nil => rfl
  | cons member rest ih =>
      obtain ⟨other, x⟩ := member
      rw [outlineMembers, List.lookup_cons, List.lookup_cons, ih]
      cases name == other <;> rfl

theorem outlineMembers_put (members : Members) (name : Runes) (value : Json) :
    outlineMembers (Entries.put members name value) =
      Entries.put (outlineMembers members) name value.outline := by
  induction members with
  | nil => rfl
  | cons member rest ih =>
      obtain ⟨other, x⟩ := member
      rw [Entries.put, outlineMembers, Entries.put]
      split
      next => rw [outlineMembers]
      next => rw [outlineMembers, ih]

theorem rereadItems_cons {x : Json} {more out : List Json} (h : rereadItems (x :: more) = .ok out) :
    ∃ y ys, reread x = .ok y ∧ rereadItems more = .ok ys ∧ out = y :: ys := by
  rw [rereadItems] at h
  cases hx : reread x with
  | error n =>
      rw [hx] at h
      cases h
  | ok y =>
      rw [hx] at h
      cases hmore : rereadItems more with
      | error n =>
          rw [hmore] at h
          cases h
      | ok ys =>
          rw [hmore] at h
          exact ⟨y, ys, rfl, rfl, (Except.ok.inj h).symm⟩

theorem outline_rereadNumber {n : Number} {w : Json} (h : Reader.rereadNumber n = .ok w) :
    w.outline = .int 0 := by
  cases n with
  | real x =>
      obtain rfl := Except.ok.inj h
      rfl
  | int n =>
      rw [Reader.rereadNumber, Reader.rereadInt] at h
      split at h
      next => cases h
      next =>
        obtain rfl := Except.ok.inj h
        rfl

mutual

/-- The text of a value holds its outline, with everything joined. -/
theorem outline_reread : ∀ (v : Json) {w : Json}, reread v = .ok w → w.outline = v.joined.outline
  | .null, _, h | .bool _, _, h | .text _, _, h => by
      obtain rfl := Except.ok.inj h
      rfl
  | .number n, _, h => outline_rereadNumber h
  | .list items, w, h => by
      rw [reread] at h
      cases hitems : rereadItems items with
      | error n =>
          rw [hitems] at h
          cases h
      | ok out =>
          rw [hitems] at h
          obtain rfl := Except.ok.inj h
          rw [joined, outline, outline, outline_rereadItems items hitems]
  | .object members, w, h => by
      rw [reread] at h
      cases hmembers : rereadMembers members [] with
      | error n =>
          rw [hmembers] at h
          cases h
      | ok out =>
          rw [hmembers] at h
          obtain rfl := Except.ok.inj h
          rw [joined, outline, outline, outline_rereadMembers members rfl hmembers]

theorem outline_rereadItems : ∀ (items : List Json) {out : List Json},
    rereadItems items = .ok out → outlineItems out = outlineItems (joinedItems items)
  | [], _, h => by
      obtain rfl := Except.ok.inj h
      rfl
  | x :: more, _, h => by
      obtain ⟨y, ys, hy, hys, rfl⟩ := rereadItems_cons h
      rw [joinedItems, outlineItems, outlineItems, outline_reread x hy,
        outline_rereadItems more hys]

/-- What was read before has one outline, however it was read. -/
theorem outline_rereadMembers : ∀ (members : Members) {acc acc' out : Members},
    outlineMembers acc = outlineMembers acc' → rereadMembers members acc = .ok out →
    outlineMembers out = outlineMembers (joinedMembers members acc')
  | [], _, _, _, hacc, h => by
      obtain rfl := Except.ok.inj h
      exact hacc
  | (name, x) :: more, acc, acc', _, hacc, h => by
      obtain ⟨y, hy, hmore⟩ := rereadMembers_cons h
      have hput : outlineMembers (Entries.put acc name.joined y) =
          outlineMembers (Entries.put acc' name.joined x.joined) := by
        rw [outlineMembers_put, outlineMembers_put, hacc, outline_reread x hy]
      rw [joinedMembers]
      exact outline_rereadMembers more hput hmore

end

/-! ## Values with distinct names -/

/-- Whether the names in every object of a value are distinct. -/
inductive Tidy : Json → Prop
  | null : Tidy .null
  | bool (b : Bool) : Tidy (.bool b)
  | number (n : Number) : Tidy (.number n)
  | text (s : Runes) : Tidy (.text s)
  | list {items : List Json} (h : ∀ x ∈ items, Tidy x) : Tidy (.list items)
  | object {members : Members} (h : ∀ member ∈ members, Tidy member.2)
      (hkeys : (Entries.keys members).Nodup) : Tidy (.object members)

theorem Reader.builds_tidy : Reader.Builds Tidy where
  null := .null
  bool := .bool
  int n _ := .number (.int n)
  real _ := .number _
  text := .text
  list _ h := .list h
  object _ h hkeys := .object h hkeys

/-- A name of the basic plane is joined from itself alone, so what an object has under it stays
under it. -/
theorem lookup_joinedMembers {name : String} (hname : Runes.isBasic name = true)
    {members : Members} (hkeys : (Entries.keys members).Nodup) (acc : Members) :
    (joinedMembers members acc).lookup (name : Runes) =
      ((members.lookup (name : Runes)).map joined).or (acc.lookup (name : Runes)) := by
  induction members generalizing acc with
  | nil => rfl
  | cons member rest ih =>
      obtain ⟨other, x⟩ := member
      obtain ⟨hother, hrest⟩ := List.nodup_cons.mp hkeys
      rw [joinedMembers, ih hrest, Entries.lookup_put, List.lookup_cons]
      by_cases hsame : (name : Runes) = other
      · subst hsame
        have hnone : rest.lookup (name : Runes) = none := by
          refine List.lookup_eq_none_iff.mpr fun entry hentry => ?_
          refine bne_iff_ne.mpr fun (heq : (name : Runes) = entry.1) => hother ?_
          show (name : Runes) ∈ Entries.keys rest
          exact heq ▸ List.mem_map_of_mem hentry
        have hjoined : (name : Runes).joined = name := Runes.settled_ofString name
        rw [hnone, hjoined, if_pos rfl, beq_self_eq_true]
        rfl
      · have hjoined : (name : Runes) ≠ other.joined := fun h =>
          hsame ((Runes.joined_eq_iff hname).mp h.symm).symm
        rw [if_neg hjoined, beq_false_of_ne hsame]

/-- Under new names without halves nothing changes. -/
theorem joinedMembers_of_isWhole {members : Members}
    (hwhole : ∀ member ∈ members, member.1.isWhole = true ∧ member.2.joined = member.2)
    {acc : Members} (hkeys : (Entries.keys (acc ++ members)).Nodup) :
    joinedMembers members acc = acc ++ members := by
  induction members generalizing acc with
  | nil => rw [joinedMembers, List.append_nil]
  | cons member more ih =>
      obtain ⟨name, x⟩ := member
      obtain ⟨hname, hx⟩ := hwhole (name, x) List.mem_cons_self
      have hnew : name ∉ Entries.keys acc := by
        intro hmem
        rw [Entries.keys, List.map_append, List.nodup_append] at hkeys
        exact hkeys.2.2 name hmem name List.mem_cons_self rfl
      have hjoined : name.joined = name := by
        obtain ⟨s, rfl⟩ := Runes.isWhole_iff.mp hname
        exact Runes.settled_ofString s
      have hnames : (Entries.keys (acc ++ [(name, x)] ++ more)).Nodup := by
        simpa [Entries.keys] using hkeys
      rw [joinedMembers, hjoined, hx, Entries.put_of_not_mem hnew,
        ih (fun m hm => hwhole m (List.mem_cons_of_mem _ hm)) hnames, List.append_assoc,
        List.singleton_append]

theorem isWhole_of_mem_items {items : List Json} (h : isWholeItems items = true) :
    ∀ x ∈ items, x.isWhole = true := by
  induction items with
  | nil => simp
  | cons y ys ih =>
      rw [isWholeItems, Bool.and_eq_true] at h
      intro x hx
      rcases List.mem_cons.mp hx with rfl | hx
      · exact h.1
      · exact ih h.2 x hx

theorem isWhole_of_mem_members {members : Members} (h : isWholeMembers members = true) :
    ∀ member ∈ members, member.1.isWhole = true ∧ member.2.isWhole = true := by
  induction members with
  | nil => simp
  | cons first rest ih =>
      obtain ⟨name, y⟩ := first
      rw [isWholeMembers, Bool.and_eq_true, Bool.and_eq_true] at h
      intro member hmember
      rcases List.mem_cons.mp hmember with rfl | hmember
      · exact h.1
      · exact ih h.2 member hmember

/-- Where there are no halves, there is nothing to join. -/
theorem joined_of_isWhole {v : Json} (hv : v.Tidy) (hwhole : v.isWhole = true) : v.joined = v := by
  induction hv with
  | null | bool | number => rfl
  | text s =>
      obtain ⟨t, rfl⟩ := Runes.isWhole_iff.mp hwhole
      rw [joined, show (t : Runes).joined = t from Runes.settled_ofString t]
  | @list items _ ih =>
      rw [joined, joinedItems_eq_map]
      have hitems := isWhole_of_mem_items hwhole
      rw [List.map_congr_left fun x hx => ih x hx (hitems x hx), List.map_id']
  | @object members _ hkeys ih =>
      have hmembers := isWhole_of_mem_members hwhole
      have hall : (Entries.keys ([] ++ members)).Nodup := hkeys
      rw [joined, joinedMembers_of_isWhole (fun member hmember =>
        ⟨(hmembers member hmember).1, ih member hmember (hmembers member hmember).2⟩) hall,
        List.nil_append]

end DesignBridge.Json
