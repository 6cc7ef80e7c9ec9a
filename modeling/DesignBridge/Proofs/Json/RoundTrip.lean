import DesignBridge.Proofs.Json.Number
import DesignBridge.Proofs.Json.Text

/-! # Values read back

The text of a value is read to its end and gives the value again, as far as text can hold it: an
integer must not have too many digits, a double is what its text says, halves of one pair side by
side are the character they make, and of the members with one name the last value stays.
-/

namespace DesignBridge.Json

open Text

mutual

/-- What the text of a value is read back as, or the number of digits that are too many. -/
def reread : Json → Except Nat Json
  | .null => .ok .null
  | .bool b => .ok (.bool b)
  | .number n => Reader.rereadNumber n
  | .text s => .ok (.text s.joined)
  | .list items => (rereadItems items).map .list
  | .object members => (rereadMembers members []).map .object

/-- `reread` for the items of a list. -/
def rereadItems : List Json → Except Nat (List Json)
  | [] => .ok []
  | x :: xs => do
    let y ← reread x
    let ys ← rereadItems xs
    return y :: ys

/-- `reread` for the members of an object, after those in `acc`. -/
def rereadMembers : Members → Members → Except Nat Members
  | [], acc => .ok acc
  | (name, x) :: rest, acc => do
    let y ← reread x
    rereadMembers rest (acc.put name.joined y)

end

namespace Reader

/-! ## What begins a value -/

theorem skipGap_cons {r : Rune} (h : isGap r = false) (cs : List Rune) :
    skipGap (r :: cs) = r :: cs := by
  simp [skipGap, h]

theorem readValue_text {fuel : Nat} {cs rest : List Rune} {s : Runes}
    (h : readQuoted fuel (.char '"' :: cs) cs = .ok (s, rest)) :
    readValue (fuel + 1) (.char '"' :: cs) = .ok (.text s, rest) := by
  simp [readValue, h, Except.map]

theorem readValue_list {c : Char} (hgap : isGap (.char c) = false) (hc : c ≠ ']') (fuel : Nat)
    (cs : List Rune) :
    readValue (fuel + 1) (.char '[' :: .char c :: cs) = readItems fuel [] (.char c :: cs) := by
  simp only [readValue, skipGap_cons hgap]
  split
  next heq => exact absurd (Rune.char.inj (List.cons.inj heq).1) hc
  next => rfl

theorem readValue_object (fuel : Nat) (cs : List Rune) :
    readValue (fuel + 1) (.char '\x7b' :: .char '"' :: cs) =
      readMembers fuel [] (.char '"' :: cs) := by
  simp [readValue, skipGap, isGap]

theorem readValue_bare {c : Char} (htext : c ≠ '"') (hlist : c ≠ '[') (hobject : c ≠ '\x7b')
    (fuel : Nat) (cs : List Rune) :
    readValue (fuel + 1) (.char c :: cs) = readBare (.char c :: cs) := by
  unfold readValue
  split
  next heq => exact absurd (Rune.char.inj (List.cons.inj heq).1) htext
  next heq => exact absurd (Rune.char.inj (List.cons.inj heq).1) hlist
  next heq => exact absurd (Rune.char.inj (List.cons.inj heq).1) hobject
  next => rfl

/-- Whether nothing at the front could belong to a number before it. -/
def Closes (rest : List Rune) : Prop :=
  Ends (Rune.leading rest).1

theorem within_leaving {α : Type} (front : List Char) (back : List Rune) (result : Except Nat α) :
    within back (leaving front result) = leaving (front.map .char ++ back) result := by
  cases result with
  | error n => rfl
  | ok a => rfl

/-- What the characters at the front are read as is what the input is read as. -/
theorem readBare_of_readAtom {cs : List Char} {result : Except Nat Json}
    (h : ∀ rest, Ends rest → readAtom (cs ++ rest) = leaving rest result) {rest : List Rune}
    (hrest : Closes rest) : readBare (cs.map .char ++ rest) = leaving rest result := by
  unfold readBare
  rw [Rune.leading_map_append]
  dsimp only
  rw [h _ hrest, within_leaving, Rune.leading_append]

/-! ## How values are written -/

/-- A value as it is written. -/
def valueText (v : Json) : List Rune :=
  v.write.toList.map .char

/-- The items of a list as they are written. -/
def itemsText (items : List Json) : List Rune :=
  (joinWith ", " (writeItems items)).toList.map .char

/-- The members of an object as they are written. -/
def membersText (members : Members) : List Rune :=
  (joinWith ", " (writeMembers members)).toList.map .char

theorem itemsText_cons (x y : Json) (rest : List Json) :
    itemsText (x :: y :: rest) =
      valueText x ++ .char ',' :: .char ' ' :: itemsText (y :: rest) := by
  simp [itemsText, valueText, writeItems, joinWith]

theorem membersText_one (name : Runes) (x : Json) :
    membersText [(name, x)] =
      .char '"' :: (quotedTail name ++ .char ':' :: .char ' ' :: valueText x) := by
  simp [membersText, valueText, writeMembers, joinWith, toList_writeText]

theorem membersText_cons (name : Runes) (x : Json) (second : Runes × Json) (rest : Members) :
    membersText ((name, x) :: second :: rest) =
      .char '"' :: (quotedTail name ++ .char ':' :: .char ' ' :: (valueText x ++
        .char ',' :: .char ' ' :: membersText (second :: rest))) := by
  simp [membersText, valueText, writeMembers, joinWith, toList_writeText]

theorem valueText_text (s : Runes) : valueText (.text s) = .char '"' :: quotedTail s :=
  toList_writeText s

theorem valueText_list (items : List Json) :
    valueText (.list items) = .char '[' :: (itemsText items ++ [.char ']']) := by
  simp [valueText, write, itemsText]

theorem valueText_object (members : Members) :
    valueText (.object members) = .char '\x7b' :: (membersText members ++ [.char '\x7d']) := by
  simp [valueText, write, membersText]

@[simp] theorem skipGap_blank (cs : List Rune) : skipGap (.char ' ' :: cs) = skipGap cs := rfl

@[simp] theorem skipGap_comma (cs : List Rune) :
    skipGap (.char ',' :: cs) = .char ',' :: cs := rfl

@[simp] theorem skipGap_colon (cs : List Rune) :
    skipGap (.char ':' :: cs) = .char ':' :: cs := rfl

@[simp] theorem skipGap_bracket (cs : List Rune) :
    skipGap (.char ']' :: cs) = .char ']' :: cs := rfl

@[simp] theorem skipGap_brace (cs : List Rune) :
    skipGap (.char '\x7d' :: cs) = .char '\x7d' :: cs := rfl

/-- A number ends where a part of a list or an object does. -/
theorem closes_delimiter {c : Char} (h : c ∈ [',', ']', '\x7d']) (rest : List Rune) :
    Closes (.char c :: rest) := by
  intro d hd
  obtain rfl := Option.some.inj hd
  simp only [List.mem_cons, List.not_mem_nil, or_false] at h
  rcases h with rfl | rfl | rfl
  all_goals exact ⟨rfl, by decide, by decide, by decide⟩

/-- Whether a value that is written begins here. -/
def Begins (cs : List Rune) : Prop :=
  ∃ c more, cs = .char c :: more ∧ (BeginsAtom c ∨ c ∈ ['"', '[', '\x7b'])

/-- No word and no number begins like anything else. -/
theorem BeginsAtom.ne {c d : Char} (h : BeginsAtom c) (hdigit : isAsciiDigit d = false)
    (hd : d ∉ ['-', 'N', 'I', 'n', 't', 'f']) : c ≠ d := by
  rintro rfl
  rcases h with h | h
  · rw [h] at hdigit
    cases hdigit
  · exact hd h

/-- What begins a value is no gap, closes no list and is no mark of byte order. -/
theorem Begins.first {cs : List Rune} (h : Begins cs) :
    ∃ c more, cs = .char c :: more ∧ isGap (.char c) = false ∧ c ≠ ']' ∧ c ≠ '\ufeff' := by
  obtain ⟨c, more, rfl, h | h⟩ := h
  · have hne := fun d => @BeginsAtom.ne c d h
    refine ⟨c, more, rfl, ?_, hne _ rfl (by decide), hne _ rfl (by decide)⟩
    unfold isGap
    simp [hne ' ' rfl, hne '\t' rfl, hne '\n' rfl, hne '\r' rfl]
  · simp only [List.mem_cons, List.not_mem_nil, or_false] at h
    rcases h with rfl | rfl | rfl
    all_goals exact ⟨_, more, rfl, rfl, by simp, by simp⟩

theorem Begins.append {cs : List Rune} (h : Begins cs) (rest : List Rune) :
    Begins (cs ++ rest) := by
  obtain ⟨c, more, rfl, hc⟩ := h
  exact ⟨c, more ++ rest, rfl, hc⟩

theorem Begins.skipGap {cs : List Rune} (h : Begins cs) : skipGap cs = cs := by
  obtain ⟨c, more, rfl, hgap, _⟩ := h.first
  exact skipGap_cons hgap more

theorem begins_valueText (v : Json) : Begins (valueText v) := by
  cases v with
  | null => exact ⟨'n', _, rfl, Or.inl (Or.inr (by simp))⟩
  | bool b =>
      cases b
      · exact ⟨'f', _, rfl, Or.inl (Or.inr (by simp))⟩
      · exact ⟨'t', _, rfl, Or.inl (Or.inr (by simp))⟩
  | number n =>
      obtain ⟨c, more, htext, hc⟩ := writeNumber_begins n
      exact ⟨c, more.map .char, congrArg (List.map Rune.char) htext, Or.inl hc⟩
  | text s => exact ⟨'"', quotedTail s, valueText_text s, Or.inr (by simp)⟩
  | list items => exact ⟨'[', _, valueText_list items, Or.inr (by simp)⟩
  | object members => exact ⟨'\x7b', _, valueText_object members, Or.inr (by simp)⟩

theorem Begins.itemsText {y : Json} (h : Begins (valueText y)) (ys : List Json) :
    Begins (itemsText (y :: ys)) := by
  cases ys with
  | nil => exact h
  | cons z zs =>
      rw [itemsText_cons]
      exact h.append _

theorem membersText_quote (member : Runes × Json) (more : Members) :
    ∃ left, membersText (member :: more) = .char '"' :: left := by
  obtain ⟨name, x⟩ := member
  cases more with
  | nil => exact ⟨_, membersText_one name x⟩
  | cons second more => exact ⟨_, membersText_cons name x second more⟩

theorem begins_membersText (member : Runes × Json) (more : Members) :
    Begins (membersText (member :: more)) := by
  obtain ⟨left, htext⟩ := membersText_quote member more
  exact ⟨'"', left, htext, Or.inr (by simp)⟩

/-! ## Values -/

/-- Whether a value is read back, with enough fuel, from its text in front of other input. -/
def ReadsBack (v : Json) : Prop :=
  ∀ (fuel : Nat) (rest : List Rune), (valueText v).length ≤ fuel → Closes rest →
    readValue fuel (valueText v ++ rest) = leaving rest (reread v)

/-- `ReadsBack` for items, up to the end of their list. -/
def ItemsReadBack (items : List Json) : Prop :=
  ∀ (fuel : Nat) (acc : List Json) (rest : List Rune), (itemsText items).length < fuel →
    readItems fuel acc (itemsText items ++ .char ']' :: rest) =
      leaving rest ((rereadItems items).map fun ys => .list (acc.reverse ++ ys))

/-- `ReadsBack` for members, up to the end of their object. -/
def MembersReadBack (members : Members) : Prop :=
  ∀ (fuel : Nat) (acc : Members) (rest : List Rune), (membersText members).length < fuel →
    readMembers fuel acc (membersText members ++ .char '\x7d' :: rest) =
      leaving rest ((rereadMembers members acc).map .object)

theorem readItems_one {x : Json} (hx : ReadsBack x) : ItemsReadBack [x] := by
  intro fuel acc rest hfuel
  cases fuel with
  | zero => exact absurd hfuel (Nat.not_lt_zero _)
  | succ fuel =>
      have hread := hx fuel (.char ']' :: rest) (Nat.le_of_lt_succ hfuel)
        (closes_delimiter (by simp) rest)
      have htext : itemsText [x] = valueText x := rfl
      rw [htext]
      unfold readItems
      rw [hread]
      cases hvalue : reread x with
      | error n => simp [leaving, rereadItems, hvalue, Except.map, bind, Except.bind]
      | ok y =>
          simp [leaving, rereadItems, hvalue, Except.map, bind, Except.bind, pure, Except.pure]

theorem readItems_more {x y : Json} {ys : List Json} (hx : ReadsBack x)
    (hrest : ItemsReadBack (y :: ys)) : ItemsReadBack (x :: y :: ys) := by
  intro fuel acc rest hfuel
  have hbegins := ((begins_valueText y).itemsText ys).append (.char ']' :: rest)
  rw [itemsText_cons] at hfuel ⊢
  simp only [List.length_append, List.length_cons] at hfuel
  cases fuel with
  | zero => exact absurd hfuel (Nat.not_lt_zero _)
  | succ fuel =>
      have hread := hx fuel (.char ',' :: .char ' ' :: (itemsText (y :: ys) ++ .char ']' :: rest))
        (by omega)
        (closes_delimiter (by simp) _)
      rw [List.append_assoc, List.cons_append, List.cons_append]
      unfold readItems
      rw [hread]
      cases hvalue : reread x with
      | error n => simp [leaving, rereadItems, hvalue, Except.map, bind, Except.bind]
      | ok z =>
          have hnext := hrest fuel (z :: acc) rest (by omega)
          have hreread : rereadItems (x :: y :: ys) =
              (rereadItems (y :: ys)).map (z :: ·) := by
            rw [rereadItems, hvalue]
            rfl
          rw [hreread]
          simp only [leaving, skipGap_comma, skipGap_blank, hbegins.skipGap]
          rw [hnext]
          cases rereadItems (y :: ys) with
          | error n => rfl
          | ok ws => simp [leaving, Except.map]

section

variable {fuel : Nat} {acc : Members} {inside afterColon left : List Rune} {name : Runes}
  {value : Json}
  (hname : readQuoted fuel (.char '"' :: inside) inside =
    .ok (name, .char ':' :: .char ' ' :: afterColon))
  (hgap : skipGap afterColon = afterColon)

include hname hgap

/-- A member ends where its value does not. -/
theorem readMembers_stop {stop : Stop Rune} (hvalue : readValue fuel afterColon = .error stop) :
    readMembers (fuel + 1) acc (.char '"' :: inside) = .error stop := by
  simp [readMembers, hname, hgap, hvalue]

theorem readMembers_close (hvalue : readValue fuel afterColon = .ok (value, .char '\x7d' :: left)) :
    readMembers (fuel + 1) acc (.char '"' :: inside) =
      .ok (.object (acc.put name value), left) := by
  simp [readMembers, hname, hgap, hvalue]

theorem readMembers_next
    (hvalue : readValue fuel afterColon = .ok (value, .char ',' :: .char ' ' :: left))
    (hleft : skipGap left = left) :
    readMembers (fuel + 1) acc (.char '"' :: inside) =
      readMembers fuel (acc.put name value) left := by
  simp [readMembers, hname, hgap, hvalue, hleft]

end

theorem readMembers_one (name : Runes) {x : Json} (hx : ReadsBack x) :
    MembersReadBack [(name, x)] := by
  intro fuel acc rest hfuel
  rw [membersText_one] at hfuel ⊢
  simp only [List.length_append, List.length_cons] at hfuel
  cases fuel with
  | zero => exact absurd hfuel (Nat.not_lt_zero _)
  | succ fuel =>
      have hread := hx fuel (.char '\x7d' :: rest) (by omega)
        (closes_delimiter (by simp) rest)
      have hgap := ((begins_valueText x).append (.char '\x7d' :: rest)).skipGap
      have hname := readQuoted_written name (show (quotedTail name).length ≤ fuel by omega)
      simp only [List.cons_append, List.append_assoc]
      cases hvalue : reread x with
      | error n =>
          rw [hvalue] at hread
          rw [readMembers_stop (hname _ _) hgap hread, rereadMembers, hvalue]
          rfl
      | ok y =>
          rw [hvalue] at hread
          rw [readMembers_close (hname _ _) hgap hread, rereadMembers, hvalue]
          rfl

theorem readMembers_more (name : Runes) {x : Json} {second : Runes × Json} {more : Members}
    (hx : ReadsBack x) (hrest : MembersReadBack (second :: more)) :
    MembersReadBack ((name, x) :: second :: more) := by
  intro fuel acc rest hfuel
  rw [membersText_cons] at hfuel ⊢
  simp only [List.length_append, List.length_cons] at hfuel
  cases fuel with
  | zero => exact absurd hfuel (Nat.not_lt_zero _)
  | succ fuel =>
      have hskip := ((begins_membersText second more).append (.char '\x7d' :: rest)).skipGap
      obtain ⟨left, hleft⟩ : ∃ left, membersText (second :: more) ++ .char '\x7d' :: rest = left :=
        ⟨_, rfl⟩
      rw [hleft] at hskip
      have hread := hx fuel (.char ',' :: .char ' ' :: left) (by omega)
        (closes_delimiter (by simp) _)
      have hgap := ((begins_valueText x).append (.char ',' :: .char ' ' :: left)).skipGap
      have hname := readQuoted_written name (show (quotedTail name).length ≤ fuel by omega)
      simp only [List.cons_append, List.append_assoc, hleft]
      cases hvalue : reread x with
      | error n =>
          rw [hvalue] at hread
          rw [readMembers_stop (hname _ _) hgap hread, rereadMembers, hvalue]
          rfl
      | ok y =>
          rw [hvalue] at hread
          have hnext := hrest fuel (acc.put name.joined y) rest (by omega)
          rw [hleft] at hnext
          have hreread : rereadMembers ((name, x) :: second :: more) acc =
              rereadMembers (second :: more) (acc.put name.joined y) := by
            rw [rereadMembers, hvalue]
            rfl
          rw [readMembers_next (hname _ _) hgap hread hskip, hnext, hreread]

theorem readsBack_atom {v : Json} {c : Char} {more : List Char}
    (htext : v.write.toList = c :: more) (hc : BeginsAtom c)
    (hread : ∀ rest, Ends rest → readAtom (v.write.toList ++ rest) = leaving rest (reread v)) :
    ReadsBack v := by
  intro fuel rest hfuel hrest
  have hvalue : readBare (valueText v ++ rest) = leaving rest (reread v) :=
    readBare_of_readAtom hread hrest
  have hbegin : valueText v = .char c :: more.map .char := congrArg (List.map Rune.char) htext
  rw [hbegin] at hfuel hvalue ⊢
  cases fuel with
  | zero => exact absurd hfuel (Nat.not_succ_le_zero _)
  | succ fuel =>
      rw [← hvalue]
      exact readValue_bare (hc.ne rfl (by decide)) (hc.ne rfl (by decide))
        (hc.ne rfl (by decide)) fuel (more.map .char ++ rest)

theorem readsBack_text (s : Runes) : ReadsBack (.text s) := by
  intro fuel rest hfuel _
  rw [valueText_text] at hfuel ⊢
  cases fuel with
  | zero => exact absurd hfuel (Nat.not_succ_le_zero _)
  | succ fuel => exact readValue_text (readQuoted_written s (Nat.le_of_succ_le_succ hfuel) _ rest)

theorem readsBack_list {items : List Json} (hitems : items ≠ [] → ItemsReadBack items) :
    ReadsBack (.list items) := by
  intro fuel rest hfuel _
  rw [valueText_list] at hfuel ⊢
  simp only [List.length_append, List.length_cons, List.length_nil] at hfuel
  cases fuel with
  | zero => exact absurd hfuel (Nat.not_succ_le_zero _)
  | succ fuel =>
      cases items with
      | nil =>
          simp [itemsText, writeItems, joinWith, readValue, skipGap, isGap, reread, rereadItems,
            Except.map, leaving]
      | cons x xs =>
          have hread := hitems (List.cons_ne_nil x xs) fuel [] rest (by omega)
          obtain ⟨c, more, htext, hgap, hc, _⟩ :=
            (((begins_valueText x).itemsText xs).append (.char ']' :: rest)).first
          rw [List.cons_append, List.append_assoc, List.singleton_append, htext,
            readValue_list hgap hc, ← htext, hread]
          rfl

theorem readsBack_object {members : Members} (hmembers : members ≠ [] → MembersReadBack members) :
    ReadsBack (.object members) := by
  intro fuel rest hfuel _
  rw [valueText_object] at hfuel ⊢
  simp only [List.length_append, List.length_cons, List.length_nil] at hfuel
  cases fuel with
  | zero => exact absurd hfuel (Nat.not_succ_le_zero _)
  | succ fuel =>
      cases members with
      | nil =>
          simp [membersText, writeMembers, joinWith, readValue, skipGap, isGap, reread,
            rereadMembers, Except.map, leaving]
      | cons member more =>
          have hread := hmembers (List.cons_ne_nil member more) fuel [] rest (by omega)
          obtain ⟨left, htext⟩ := membersText_quote member more
          rw [List.cons_append, List.append_assoc, List.singleton_append, htext, List.cons_append,
            readValue_object, ← List.cons_append, ← htext, hread]
          rfl

-- By recursion on the value; items and members hand over to the values in them.
mutual

/-- A value that was written is read back, and what follows it is left. -/
theorem readValue_write : (v : Json) → ReadsBack v
  | .null => readsBack_atom rfl (c := 'n') (Or.inr (by simp)) fun _ _ => rfl
  | .bool true => readsBack_atom rfl (c := 't') (Or.inr (by simp)) fun _ _ => rfl
  | .bool false => readsBack_atom rfl (c := 'f') (Or.inr (by simp)) fun _ _ => rfl
  | .number n =>
      have ⟨_, _, htext, hc⟩ := writeNumber_begins n
      readsBack_atom htext hc fun _ => readAtom_writeNumber n
  | .text s => readsBack_text s
  | .list items => readsBack_list (readItems_write items)
  | .object members => readsBack_object (readMembers_write members)

theorem readItems_write : (items : List Json) → items ≠ [] → ItemsReadBack items
  | [], h => absurd rfl h
  | [x], _ => readItems_one (readValue_write x)
  | x :: y :: ys, _ =>
      readItems_more (readValue_write x) (readItems_write (y :: ys) (List.cons_ne_nil y ys))

theorem readMembers_write : (members : Members) → members ≠ [] → MembersReadBack members
  | [], h => absurd rfl h
  | [(name, x)], _ => readMembers_one name (readValue_write x)
  | (name, x) :: second :: more, _ =>
      readMembers_more name (readValue_write x)
        (readMembers_write (second :: more) (List.cons_ne_nil second more))

end

end Reader

/-- The text of a value is read back as the value, unless an integer in it has too many digits. -/
theorem readRunes?_write (v : Json) :
    readRunes? (v.write.toList.map .char) = (reread v).mapError .tooLong := by
  -- The reader has more fuel than the text has places.
  have hread := Reader.readValue_write v (2 * (Reader.valueText v).length + 2) [] (by omega)
    Reader.ends_nil
  rw [List.append_nil] at hread
  show readRunes? (Reader.valueText v) = _
  unfold readRunes?
  rw [(Reader.begins_valueText v).skipGap, hread]
  cases reread v with
  | error n => rfl
  | ok w => rfl

theorem read?_write (v : Json) : read? v.write = (reread v).mapError .tooLong := by
  obtain ⟨c, more, htext, _, _, hmark⟩ := (Reader.begins_valueText v).first
  obtain ⟨d, _, hchars, hd, _⟩ := List.map_eq_cons_iff.mp htext
  obtain rfl := Rune.char.inj hd
  unfold read?
  dsimp only
  rw [readRunes?_write, if_neg (by simp [hchars, hmark])]

end DesignBridge.Json
