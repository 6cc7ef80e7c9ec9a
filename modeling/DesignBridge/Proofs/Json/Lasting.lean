import DesignBridge.Proofs.Json.Source

/-! # Values that their text holds

A value lasts if its own text is read as that value again. A text lasts just when no halves of one
pair stand side by side in it; an object, when its names do and are distinct, and the values under
them last. So an object still lasts when a value that lasts is put into it.
-/

namespace DesignBridge

namespace Json

/-- Whether the text of a value is read as that value. -/
def Lasts (v : Json) : Prop :=
  read? v.write = .ok v

theorem lasts_iff {v : Json} : v.Lasts ↔ reread v = .ok v := by
  unfold Lasts
  rw [read?_write]
  cases reread v with
  | error n => exact ⟨(nomatch ·), (nomatch ·)⟩
  | ok w => exact ⟨fun h => congrArg Except.ok (Except.ok.inj h),
      fun h => congrArg Except.ok (Except.ok.inj h)⟩

theorem lasts_text_iff {s : Runes} : (text s).Lasts ↔ s.IsSettled := by
  rw [lasts_iff, reread, Except.ok.injEq, text.injEq, Runes.IsSettled]

theorem lasts_text (s : String) : (text s).Lasts :=
  lasts_text_iff.mpr (Runes.settled_ofString s)

/-- Every name that is read lasts. -/
theorem settled_keys_rereadMembers {members acc out : Members}
    (h : rereadMembers members acc = .ok out) (hacc : ∀ name ∈ Entries.keys acc, name.IsSettled) :
    ∀ name ∈ Entries.keys out, name.IsSettled := by
  induction members generalizing acc with
  | nil => exact Except.ok.inj h ▸ hacc
  | cons member more ih =>
      obtain ⟨name, x⟩ := member
      obtain ⟨y, _, hmore⟩ := rereadMembers_cons h
      refine ih hmore fun other hother => ?_
      rw [Entries.keys_put] at hother
      split at hother
      next => exact hacc other hother
      next =>
        rcases List.mem_append.mp hother with hold | hnew
        · exact hacc other hold
        · exact List.mem_singleton.mp hnew ▸ Runes.settled_joined name

/-- Nothing is read under one name twice. -/
theorem nodup_keys_rereadMembers {members acc out : Members}
    (h : rereadMembers members acc = .ok out) (hacc : (Entries.keys acc).Nodup) :
    (Entries.keys out).Nodup := by
  induction members generalizing acc with
  | nil => exact Except.ok.inj h ▸ hacc
  | cons member more ih =>
      obtain ⟨name, x⟩ := member
      obtain ⟨y, _, hmore⟩ := rereadMembers_cons h
      exact ih hmore (Entries.nodup_keys_put hacc name.joined y)

/-- Under new names, values that last are read back behind what was read before. -/
theorem rereadMembers_of_lasts {members acc : Members}
    (hlasts : ∀ member ∈ members, member.1.IsSettled ∧ member.2.Lasts)
    (hkeys : (Entries.keys (acc ++ members)).Nodup) :
    rereadMembers members acc = .ok (acc ++ members) := by
  induction members generalizing acc with
  | nil => rw [rereadMembers, List.append_nil]
  | cons member more ih =>
      obtain ⟨name, x⟩ := member
      obtain ⟨hname, hvalue⟩ := hlasts (name, x) List.mem_cons_self
      have hjoined : name.joined = name := hname
      have hx : reread x = .ok x := lasts_iff.mp hvalue
      have hnew : name ∉ Entries.keys acc := by
        intro hmem
        rw [Entries.keys, List.map_append, List.nodup_append] at hkeys
        exact hkeys.2.2 name hmem name (by simp) rfl
      have hmore : rereadMembers more (acc ++ [(name, x)]) = .ok (acc ++ [(name, x)] ++ more) := by
        refine ih (fun m hm => hlasts m (List.mem_cons_of_mem _ hm)) ?_
        rwa [List.append_assoc, List.singleton_append]
      calc rereadMembers ((name, x) :: more) acc
          = rereadMembers more (acc.put name x) := by rw [rereadMembers, hx, hjoined]; rfl
        _ = .ok (acc ++ [(name, x)] ++ more) := by rw [Entries.put_of_not_mem hnew, hmore]
        _ = .ok (acc ++ (name, x) :: more) := by rw [List.append_assoc, List.singleton_append]

theorem reread_object {members out : Members} :
    reread (object members) = .ok (object out) ↔ rereadMembers members [] = .ok out := by
  rw [reread]
  cases rereadMembers members [] with
  | error n => simp [Except.map]
  | ok read => simp [Except.map]

theorem lasts_object_iff {members : Members} :
    (object members).Lasts ↔ (Entries.keys members).Nodup ∧
      ∀ member ∈ members, member.1.IsSettled ∧ member.2.Lasts := by
  rw [lasts_iff, reread_object]
  constructor
  · intro h
    have hkeys := nodup_keys_rereadMembers h List.nodup_nil
    have hnames := settled_keys_rereadMembers h (by simp [Entries.keys])
    refine ⟨hkeys, fun member hmember => ?_⟩
    obtain ⟨name, x⟩ := member
    have hthere := lookup_of_mem hkeys hmember
    have hname : name.IsSettled := hnames name (List.mem_map_of_mem hmember)
    obtain ⟨y, hy, hsame⟩ := lookup_rereadMembers h hkeys
      (fun other hother => by rw [show other.joined = other from hnames other hother]) hthere
    obtain rfl := Option.some.inj (hthere.symm.trans hsame)
    exact ⟨hname, lasts_iff.mpr hy⟩
  · rintro ⟨hkeys, hlasts⟩
    exact rereadMembers_of_lasts hlasts hkeys

/-- An object with a text under one name lasts. -/
theorem lasts_object_text (name s : String) : (object [(↑name, text s)]).Lasts := by
  refine lasts_object_iff.mpr ⟨by simp [Entries.keys], fun member hmember => ?_⟩
  obtain rfl := List.mem_singleton.mp hmember
  exact ⟨Runes.settled_ofString name, lasts_text s⟩

/-- A value that lasts can be put into an object that lasts, under any name that lasts. -/
theorem Lasts.put {members : Members} (h : (object members).Lasts) {name : Runes}
    (hname : name.IsSettled) {value : Json} (hvalue : value.Lasts) :
    (object (Entries.put members name value)).Lasts := by
  obtain ⟨hkeys, hlasts⟩ := lasts_object_iff.mp h
  refine lasts_object_iff.mpr ⟨Entries.nodup_keys_put hkeys name value, fun member hmember => ?_⟩
  rcases Entries.mem_put hmember with rfl | hold
  · exact ⟨hname, hvalue⟩
  · exact hlasts member hold

end Json

end DesignBridge
