import DesignBridge.Proofs.Json.RoundTrip

/-! # Values that came as text

A value that was read has distinct names in every object and no integer with too many digits, so its
own text can be read again. The members of such an object are read back one by one.
-/

namespace DesignBridge

namespace Json

open Text

/-- Whether the text of a value can be read. -/
def IsReadable (v : Json) : Prop :=
  ∃ w, reread v = .ok w

theorem rereadItems_isOk {items : List Json} (h : ∀ x ∈ items, IsReadable x) :
    ∃ ys, rereadItems items = .ok ys := by
  induction items with
  | nil => exact ⟨[], rfl⟩
  | cons x xs ih =>
      obtain ⟨y, hy⟩ := h x (List.mem_cons_self ..)
      obtain ⟨ys, hys⟩ := ih fun z hz => h z (List.mem_cons_of_mem _ hz)
      refine ⟨y :: ys, ?_⟩
      rw [rereadItems, hy, hys]
      rfl

theorem rereadMembers_isOk {members : Members} (h : ∀ member ∈ members, IsReadable member.2)
    (acc : Members) : ∃ out, rereadMembers members acc = .ok out := by
  induction members generalizing acc with
  | nil => exact ⟨acc, rfl⟩
  | cons member more ih =>
      obtain ⟨name, x⟩ := member
      obtain ⟨y, hy⟩ := h (name, x) (List.mem_cons_self ..)
      obtain ⟨out, hout⟩ := ih (fun m hm => h m (List.mem_cons_of_mem _ hm)) (acc.put name.joined y)
      refine ⟨out, ?_⟩
      rw [rereadMembers]
      simp only at hy
      rw [hy]
      exact hout

/-- An object reads back member by member. -/
theorem rereadMembers_cons {name : Runes} {x : Json} {more acc out : Members}
    (h : rereadMembers ((name, x) :: more) acc = .ok out) :
    ∃ y, reread x = .ok y ∧ rereadMembers more (acc.put name.joined y) = .ok out := by
  rw [rereadMembers] at h
  cases hx : reread x with
  | error n =>
      rw [hx] at h
      cases h
  | ok y =>
      rw [hx] at h
      exact ⟨y, rfl, h⟩

theorem readable_of_rereadMembers {members acc out : Members}
    (h : rereadMembers members acc = .ok out) : ∀ member ∈ members, IsReadable member.2 := by
  induction members generalizing acc with
  | nil => simp
  | cons member more ih =>
      obtain ⟨name, x⟩ := member
      obtain ⟨y, hy, hmore⟩ := rereadMembers_cons h
      intro m hm
      rcases List.mem_cons.mp hm with rfl | hm
      · exact ⟨y, hy⟩
      · exact ih hmore m hm

/-- A name that an object does not have, as text holds it, stays as it was. -/
theorem lookup_rereadMembers_other {members acc out : Members}
    (h : rereadMembers members acc = .ok out) {name : Runes}
    (hname : ∀ other ∈ members.keys, other.joined ≠ name) : out.lookup name = acc.lookup name := by
  induction members generalizing acc with
  | nil =>
      obtain rfl := Except.ok.inj h
      rfl
  | cons member more ih =>
      obtain ⟨other, x⟩ := member
      obtain ⟨y, _, hmore⟩ := rereadMembers_cons h
      have hne : name ≠ other.joined := fun heq => hname other (List.mem_cons_self ..) heq.symm
      rw [ih hmore fun another hmem => hname another (List.mem_cons_of_mem _ hmem),
        Entries.lookup_put, if_neg hne]

/-- A member of an object with distinct names is read back under its name, when no other name is
read as this one. -/
theorem lookup_rereadMembers {members acc out : Members}
    (h : rereadMembers members acc = .ok out) (hkeys : members.keys.Nodup) {name : Runes}
    (hname : ∀ other ∈ members.keys, other.joined = name ↔ other = name) {x : Json}
    (hx : members.lookup name = some x) : ∃ y, reread x = .ok y ∧ out.lookup name = some y := by
  induction members generalizing acc with
  | nil => cases hx
  | cons member more ih =>
      obtain ⟨other, z⟩ := member
      obtain ⟨y, hy, hmore⟩ := rereadMembers_cons h
      have hkeys' : other ∉ Entries.keys more ∧ (Entries.keys more).Nodup :=
        List.nodup_cons.mp hkeys
      have hmorename : ∀ another ∈ Entries.keys more, another.joined = name ↔ another = name :=
        fun another hmem => hname another (List.mem_cons_of_mem _ hmem)
      by_cases hsame : name = other
      · subst hsame
        rw [List.lookup_cons_self] at hx
        obtain rfl := Option.some.inj hx
        refine ⟨y, hy, ?_⟩
        have hjoined : name.joined = name := (hname name (List.mem_cons_self ..)).mpr rfl
        rw [lookup_rereadMembers_other hmore fun another hmem heq =>
          hkeys'.1 ((hmorename another hmem).mp heq ▸ hmem), Entries.lookup_put,
          if_pos hjoined.symm]
      · rw [List.lookup_cons, beq_false_of_ne hsame] at hx
        exact ih hmore hkeys'.2 hmorename hx

/-- What a value has that came as text. -/
structure FromText (v : Json) : Prop where
  readable : IsReadable v
  keys : ∀ members, v = .object members → (Entries.keys members).Nodup

/-- What has been read of an object: values that can be read again, under distinct names. -/
structure MembersFromText (members : Members) : Prop where
  readable : ∀ member ∈ members, IsReadable member.2
  keys : (Entries.keys members).Nodup

theorem MembersFromText.put {members : Members} (h : MembersFromText members) (name : Runes)
    {value : Json} (hvalue : IsReadable value) : MembersFromText (members.put name value) := by
  refine ⟨fun member hmember => ?_, Entries.nodup_keys_put h.keys name value⟩
  rcases Entries.mem_put hmember with rfl | hold
  · exact hvalue
  · exact h.readable member hold

namespace Reader

theorem takeWhole?_isDigits {cs whole rest : List Char} (h : takeWhole? cs = some (whole, rest)) :
    IsDigits whole := by
  unfold takeWhole? at h
  split at h
  next =>
    obtain ⟨rfl, _⟩ := Prod.mk.inj (Option.some.inj h)
    exact IsWhole.isDigits (Or.inl rfl)
  next c more _ =>
    split at h
    next hc =>
      obtain ⟨rfl, _⟩ := Prod.mk.inj (Option.some.inj h)
      refine ⟨List.cons_ne_nil _ _, fun d hd => ?_⟩
      rcases List.mem_cons.mp hd with rfl | hd
      · exact hc
      · exact List.all_eq_true.mp List.all_takeWhile d hd
    next => cases h
  next => cases h

theorem asciiDigitValue_lt {c : Char} (h : isAsciiDigit c = true) : asciiDigitValue c < 10 := by
  have hupper : c.toNat ≤ 57 := by
    unfold isAsciiDigit at h
    rw [Bool.and_eq_true, decide_eq_true_eq, decide_eq_true_eq] at h
    exact h.2
  unfold asciiDigitValue
  omega

/-- So many digits write a number below that power of ten. -/
theorem natOfDigits_lt {ds : List Char} (h : ∀ c ∈ ds, isAsciiDigit c = true) :
    natOfDigits ds < Nat.pow 10 ds.length := by
  -- Generalized to any number before the digits, for the induction.
  have hfold : ∀ (cs : List Char), (∀ c ∈ cs, isAsciiDigit c = true) → ∀ n : Nat,
      cs.foldl (fun n c => 10 * n + asciiDigitValue c) n < (n + 1) * Nat.pow 10 cs.length := by
    intro cs
    induction cs with
    | nil => simp
    | cons c cs ih =>
        intro hcs n
        have hc := asciiDigitValue_lt (hcs c (List.mem_cons_self ..))
        have hfront := ih (fun d hd => hcs d (List.mem_cons_of_mem _ hd))
          (10 * n + asciiDigitValue c)
        have hstep : (10 * n + asciiDigitValue c + 1) * Nat.pow 10 cs.length ≤
            ((n + 1) * 10) * Nat.pow 10 cs.length := Nat.mul_le_mul_right _ (by omega)
        have hpow : Nat.pow 10 (c :: cs).length = 10 * Nat.pow 10 cs.length := Nat.pow_succ'
        rw [hpow, ← Nat.mul_assoc]
        exact Nat.lt_of_lt_of_le hfront hstep
  have hlt := hfold ds h 0
  rwa [Nat.zero_add, Nat.one_mul] at hlt

theorem fromText_int {n : Int} (h : (Nat.toDigits 10 n.natAbs).length ≤ Numeral.maxDigits) :
    FromText (.number (.int n)) := by
  refine ⟨⟨.int n, ?_⟩, fun members heq => by cases heq⟩
  rw [reread, rereadNumber, rereadInt, if_neg (Nat.not_lt.mpr h)]

theorem fromText_real (x : Float) : FromText (.number (.real x)) :=
  ⟨⟨_, rfl⟩, fun members heq => by cases heq⟩

theorem fromText_text (s : Runes) : FromText (.text s) :=
  ⟨⟨_, rfl⟩, fun members heq => by cases heq⟩

theorem fromText_list {items : List Json} (h : ∀ x ∈ items, IsReadable x) :
    FromText (.list items) := by
  obtain ⟨ys, hys⟩ := rereadItems_isOk h
  refine ⟨⟨.list ys, ?_⟩, fun members heq => by cases heq⟩
  rw [reread, hys]
  rfl

theorem fromText_object {members : Members} (h : ∀ member ∈ members, IsReadable member.2)
    (hkeys : (Entries.keys members).Nodup) : FromText (.object members) := by
  obtain ⟨out, hout⟩ := rereadMembers_isOk h []
  refine ⟨⟨.object out, ?_⟩, fun other heq => by cases heq; exact hkeys⟩
  rw [reread, hout]
  rfl

/-- What holds of every value of which it holds whenever it holds of the parts, as long as they are
parts that can be read: integers that are not too long, and objects with distinct names. -/
structure Builds (P : Json → Prop) : Prop where
  null : P .null
  bool : ∀ b, P (.bool b)
  int : ∀ n : Int, (Nat.toDigits 10 n.natAbs).length ≤ Numeral.maxDigits → P (.number (.int n))
  real : ∀ x, P (.number (.real x))
  text : ∀ s, P (.text s)
  list : ∀ items, (∀ x ∈ items, P x) → P (.list items)
  object : ∀ members, (∀ member ∈ members, P member.2) → (Entries.keys members).Nodup →
    P (.object members)

section

variable {P : Json → Prop}

theorem Builds.readNumber (hP : Builds P) {cs rest : List Char} {v : Json}
    (h : readNumber cs = .ok (v, rest)) : P v := by
  unfold Reader.readNumber at h
  dsimp only at h
  split at h
  next => cases h
  next whole afterWhole hwhole =>
    have hdigits := takeWhole?_isDigits hwhole
    split at h
    next =>
      split at h
      next => cases h
      next hlength =>
        obtain ⟨rfl, _⟩ := Prod.mk.inj (Except.ok.inj h)
        have hshort : (Nat.toDigits 10 (natOfDigits whole)).length ≤ Numeral.maxDigits := by
          have hpos := List.length_pos_iff.mpr hdigits.ne_nil
          have hlt := natOfDigits_lt hdigits.digits
          exact Nat.le_trans ((Nat.length_toDigits_le_iff (by decide) hpos).mpr hlt)
            (Nat.not_lt.mp hlength)
        have hsize : ∀ negative : Bool, (if negative then -(natOfDigits whole : Int)
            else natOfDigits whole).natAbs = natOfDigits whole := by
          intro negative
          cases negative <;> simp
        apply hP.int
        rwa [hsize]
    next =>
      obtain ⟨rfl, _⟩ := Prod.mk.inj (Except.ok.inj h)
      exact hP.real _

theorem Builds.readAtom (hP : Builds P) {cs rest : List Char} {v : Json}
    (h : readAtom cs = .ok (v, rest)) : P v := by
  unfold Reader.readAtom at h
  split at h
  next word value hfind =>
    obtain ⟨rfl, _⟩ := Prod.mk.inj (Except.ok.inj h)
    have hmem := List.mem_of_find?_eq_some hfind
    simp only [words, List.mem_cons, Prod.mk.injEq, List.not_mem_nil, or_false] at hmem
    rcases hmem with ⟨_, rfl⟩ | ⟨_, rfl⟩ | ⟨_, rfl⟩ | ⟨_, rfl⟩ | ⟨_, rfl⟩ | ⟨_, rfl⟩
    all_goals first | exact hP.null | exact hP.bool _ | exact hP.real _
  next => exact hP.readNumber h

/-- What holds of everything that is read with so much fuel. -/
structure Sound (P : Json → Prop) (fuel : Nat) : Prop where
  value : ∀ {cs v rest}, readValue fuel cs = .ok (v, rest) → P v
  items : ∀ {acc cs v rest}, (∀ x ∈ acc, P x) → readItems fuel acc cs = .ok (v, rest) → P v
  members : ∀ {acc cs v rest}, (∀ member ∈ acc, P member.2) → (Entries.keys acc).Nodup →
    readMembers fuel acc cs = .ok (v, rest) → P v

theorem Builds.readBare (hP : Builds P) {cs rest : List Rune} {v : Json}
    (h : readBare cs = .ok (v, rest)) : P v := by
  unfold Reader.readBare at h
  dsimp only at h
  cases hread : Reader.readAtom (Rune.leading cs).1 with
  | error stop =>
      rw [hread] at h
      cases stop <;> cases h
  | ok result =>
      rw [hread] at h
      obtain ⟨rfl, _⟩ := Prod.mk.inj (Except.ok.inj h)
      exact hP.readAtom hread

theorem Sound.none (P : Json → Prop) : Sound P 0 where
  value h := by cases h
  items _ h := by cases h
  members _ _ h := by cases h

section

variable {fuel : Nat} {cs rest : List Rune} {v : Json}

theorem Sound.next_value (ih : Sound P fuel) (hP : Builds P)
    (h : readValue (fuel + 1) cs = .ok (v, rest)) : P v := by
  unfold readValue at h
  split at h
  next cs' =>
    cases hread : readQuoted fuel (.char '"' :: cs') cs' with
    | error stop =>
        rw [hread] at h
        cases h
    | ok result =>
        rw [hread] at h
        obtain ⟨rfl, _⟩ := Prod.mk.inj (Except.ok.inj h)
        exact hP.text result.1
  next =>
    split at h
    next =>
      obtain ⟨rfl, _⟩ := Prod.mk.inj (Except.ok.inj h)
      exact hP.list [] (by simp)
    next => exact ih.items (by simp) h
  next =>
    split at h
    next =>
      obtain ⟨rfl, _⟩ := Prod.mk.inj (Except.ok.inj h)
      exact hP.object [] (by simp) List.nodup_nil
    next =>
      refine ih.members ?_ ?_ h
      · simp
      · exact List.nodup_nil
  next => exact hP.readBare h

theorem Sound.next_items (ih : Sound P fuel) (hP : Builds P) {acc : List Json}
    (hacc : ∀ x ∈ acc, P x) (h : readItems (fuel + 1) acc cs = .ok (v, rest)) : P v := by
  unfold readItems at h
  split at h
  next => cases h
  next item left hitem =>
    have hitems : ∀ x ∈ item :: acc, P x := by
      intro x hx
      rcases List.mem_cons.mp hx with rfl | hx
      · exact ih.value hitem
      · exact hacc x hx
    split at h
    next =>
      obtain ⟨rfl, _⟩ := Prod.mk.inj (Except.ok.inj h)
      exact hP.list _ fun x hx => hitems x (List.mem_reverse.mp hx)
    next => exact ih.items hitems h
    next => cases h

/-- A value of which it holds can stand behind a further name. -/
theorem forall_mem_put {acc : Members} (hacc : ∀ member ∈ acc, P member.2) (name : Runes)
    {value : Json} (hvalue : P value) : ∀ member ∈ Entries.put acc name value, P member.2 := by
  intro member hmember
  rcases Entries.mem_put hmember with rfl | hold
  · exact hvalue
  · exact hacc member hold

theorem Sound.next_members (ih : Sound P fuel) (hP : Builds P) {acc : Members}
    (hacc : ∀ member ∈ acc, P member.2) (hkeys : (Entries.keys acc).Nodup)
    (h : readMembers (fuel + 1) acc cs = .ok (v, rest)) : P v := by
  unfold readMembers at h
  split at h
  next =>
    split at h
    next => cases h
    next name afterName _ =>
      split at h
      next =>
        split at h
        next => cases h
        next value afterValue hvalue =>
          have hmembers := forall_mem_put hacc name (ih.value hvalue)
          have hnames := Entries.nodup_keys_put hkeys name value
          split at h
          next =>
            obtain ⟨rfl, _⟩ := Prod.mk.inj (Except.ok.inj h)
            exact hP.object _ hmembers hnames
          next => exact ih.members hmembers hnames h
          next => cases h
      next => cases h
  next => cases h

end

/-- The three readers call each other with less fuel, so they are taken together. -/
theorem Builds.sound (hP : Builds P) (fuel : Nat) : Sound P fuel := by
  induction fuel with
  | zero => exact Sound.none P
  | succ fuel ih => exact ⟨ih.next_value hP, ih.next_items hP, ih.next_members hP⟩

/-- So it holds of every value that is read. -/
theorem Builds.readRunes? (hP : Builds P) {cs : List Rune} {v : Json}
    (h : readRunes? cs = .ok v) : P v := by
  unfold Json.readRunes? at h
  split at h
  next => cases h
  next value rest hread =>
    split at h
    next =>
      obtain rfl := Except.ok.inj h
      exact (hP.sound _).value hread
    next => cases h

end

theorem builds_fromText : Builds FromText where
  null := ⟨⟨_, rfl⟩, fun members heq => by cases heq⟩
  bool b := ⟨⟨_, rfl⟩, fun members heq => by cases heq⟩
  int n hn := fromText_int hn
  real := fromText_real
  text := fromText_text
  list items hitems := fromText_list fun x hx => (hitems x hx).readable
  object members hmembers hkeys :=
    fromText_object (fun member hmem => (hmembers member hmem).readable) hkeys

end Reader

/-- A value that was read can be read again from its own text. -/
theorem readRunes?_fromText {cs : List Rune} {v : Json} (h : readRunes? cs = .ok v) : FromText v :=
  Reader.builds_fromText.readRunes? h

end Json

end DesignBridge
