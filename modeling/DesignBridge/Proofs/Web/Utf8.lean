import DesignBridge.Web.Utf8

/-! # UTF-8 read back

The bytes of a text are read as that text. Bytes need not be those of a text; however they are read,
each of them adds one character at most.
-/

namespace DesignBridge.Utf8

/-! ## One character at a time -/

theorem pieces_of_lt {a : Nat} (h : a < 0x80) (rest : List Nat) :
    pieces (a :: rest) = .char (Char.ofNat a) :: pieces rest := by
  rw [pieces.eq_def]
  exact if_pos h

theorem le_of_begins {a b : Nat} (h : begins a b = true) : 0xC2 ≤ a := by
  unfold begins at h
  grind

/-- A byte that can be the second of a character can carry one on. -/
theorem continues_of_begins {a b : Nat} (h : begins a b = true) : continues b = true := by
  unfold begins at h
  unfold continues at h ⊢
  grind

theorem pieces_two {a b : Nat} (hbegins : begins a b = true) (ha : a < 0xE0)
    (rest : List Nat) :
    pieces (a :: b :: rest) =
      .char (Char.ofNat (a % 0x20 * 0x40 + b % 0x40)) :: pieces rest := by
  have := le_of_begins hbegins
  rw [pieces.eq_def]
  dsimp only
  rw [if_neg (by omega), hbegins, if_neg (by decide), if_pos ha]

theorem pieces_three {a b c : Nat} (hbegins : begins a b = true) (hthird : continues c = true)
    (ha : 0xE0 ≤ a) (ha' : a < 0xF0) (rest : List Nat) :
    pieces (a :: b :: c :: rest) =
      .char (Char.ofNat ((a % 0x10 * 0x40 + b % 0x40) * 0x40 + c % 0x40)) :: pieces rest := by
  rw [pieces.eq_def]
  dsimp only
  rw [if_neg (by omega), hbegins, if_neg (by decide), if_neg (by omega), hthird,
    if_neg (by decide), if_pos ha']

theorem pieces_four {a b c d : Nat} (hbegins : begins a b = true) (hthird : continues c = true)
    (hfourth : continues d = true) (ha : 0xF0 ≤ a) (rest : List Nat) :
    pieces (a :: b :: c :: d :: rest) =
      .char (Char.ofNat (((a % 0x08 * 0x40 + b % 0x40) * 0x40 + c % 0x40) * 0x40 + d % 0x40)) ::
        pieces rest := by
  rw [pieces.eq_def]
  dsimp only
  rw [if_neg (by omega), hbegins, if_neg (by decide), if_neg (by omega), hthird,
    if_neg (by decide), if_neg (by omega), hfourth, if_neg (by decide)]

/-! ## Texts -/

/-- The bytes of a character, as numbers. -/
def charNats (c : Char) : List Nat :=
  (String.utf8EncodeChar c).map UInt8.toNat

/-- How many bytes a character has depends on its number. -/
theorem charNats_eq (c : Char) : charNats c =
    if c.toNat ≤ 0x7F then [c.toNat]
    else if c.toNat ≤ 0x7FF then [c.toNat / 0x40 + 0xC0, c.toNat % 0x40 + 0x80]
    else if c.toNat ≤ 0xFFFF then
      [c.toNat / 0x1000 + 0xE0, c.toNat / 0x40 % 0x40 + 0x80, c.toNat % 0x40 + 0x80]
    else [c.toNat / 0x40000 + 0xF0, c.toNat / 0x1000 % 0x40 + 0x80, c.toNat / 0x40 % 0x40 + 0x80,
      c.toNat % 0x40 + 0x80] := by
  have hvalid : c.toNat < 0xD800 ∨ (0xDFFF < c.toNat ∧ c.toNat < 0x110000) := c.valid
  have hbyte : ∀ n m, n < 256 → n = m → (UInt8.ofNat n).toNat = m := by
    rintro n m hn rfl
    rw [UInt8.toNat_ofNat', Nat.mod_eq_of_lt hn]
  have hval : c.val.toNat = c.toNat := rfl
  unfold charNats String.utf8EncodeChar
  rw [hval]
  generalize c.toNat = n at *
  dsimp only
  split
  next => rw [List.map_singleton, hbyte n n (by omega) rfl]
  next =>
    split
    next =>
      simp only [List.map_cons, List.map_nil, List.cons.injEq, and_true]
      exact ⟨hbyte _ _ (by omega) (by omega), hbyte _ _ (by omega) rfl⟩
    next =>
      split
      next =>
        simp only [List.map_cons, List.map_nil, List.cons.injEq, and_true]
        exact ⟨hbyte _ _ (by omega) (by omega), hbyte _ _ (by omega) rfl, hbyte _ _ (by omega) rfl⟩
      next =>
        simp only [List.map_cons, List.map_nil, List.cons.injEq, and_true]
        exact ⟨hbyte _ _ (by omega) (by omega), hbyte _ _ (by omega) rfl, hbyte _ _ (by omega) rfl,
          hbyte _ _ (by omega) rfl⟩

theorem continues_mod (n : Nat) : continues (n % 0x40 + 0x80) = true := by
  unfold continues
  grind

/-- The bytes of a character are read as that character, whatever follows. -/
theorem pieces_charNats_append (c : Char) (rest : List Nat) :
    pieces (charNats c ++ rest) = .char c :: pieces rest := by
  have hvalid : c.toNat < 0xD800 ∨ (0xDFFF < c.toNat ∧ c.toNat < 0x110000) := c.valid
  have hchar : ∀ n, n = c.toNat → Char.ofNat n = c := fun n hn => hn ▸ Char.ofNat_toNat c
  rw [charNats_eq]
  split
  next h => rw [List.singleton_append, pieces_of_lt (by omega), hchar _ rfl]
  next =>
    split
    next =>
      have hbegins : begins (c.toNat / 0x40 + 0xC0) (c.toNat % 0x40 + 0x80) = true := by
        unfold begins continues
        grind
      rw [List.cons_append, List.singleton_append, pieces_two hbegins (by omega),
        hchar _ (by omega)]
    next =>
      split
      next =>
        have hbegins : begins (c.toNat / 0x1000 + 0xE0) (c.toNat / 0x40 % 0x40 + 0x80) = true := by
          unfold begins continues
          grind
        rw [List.cons_append, List.cons_append, List.singleton_append,
          pieces_three hbegins (continues_mod _) (by omega) (by omega), hchar _ (by omega)]
      next =>
        have hbegins :
            begins (c.toNat / 0x40000 + 0xF0) (c.toNat / 0x1000 % 0x40 + 0x80) = true := by
          have hsize : c.toNat / 0x40000 ≤ 4 := by omega
          have hlast : c.toNat / 0x40000 = 4 → c.toNat / 0x1000 % 0x40 ≤ 0x0F := by omega
          have hfirst : c.toNat / 0x40000 = 0 → 0x10 ≤ c.toNat / 0x1000 % 0x40 := by omega
          unfold begins continues
          grind
        rw [List.cons_append, List.cons_append, List.cons_append, List.singleton_append,
          pieces_four hbegins (continues_mod _) (continues_mod _) (by omega),
          hchar _ (by omega)]

theorem pieces_append_of_char (c : Char) (bytes : List UInt8) :
    pieces ((String.utf8EncodeChar c ++ bytes).map UInt8.toNat) =
      .char c :: pieces (bytes.map UInt8.toNat) := by
  rw [List.map_append]
  exact pieces_charNats_append c _

/-- The bytes of a text come apart into its characters. -/
theorem pieces_encode (cs : List Char) : pieces ((encode cs).map UInt8.toNat) = cs.map .char := by
  induction cs with
  | nil => rfl
  | cons c rest ih =>
      have hencode : encode (c :: rest) = String.utf8EncodeChar c ++ encode rest := rfl
      rw [hencode, pieces_append_of_char, ih, List.map_cons]

theorem decode_append_of_char (c : Char) (bytes : List UInt8) :
    decode (String.utf8EncodeChar c ++ bytes) = c :: decode bytes := by
  rw [decode, pieces_append_of_char]
  rfl

/-- The bytes of a text are read as that text. -/
theorem decode_encode (cs : List Char) : decode (encode cs) = cs := by
  rw [decode, pieces_encode, List.map_map]
  exact List.map_id cs

/-- So they are by a reader that gives up on other bytes. -/
theorem decodeRunes?_encode (cs : List Char) : decodeRunes? (encode cs) = some (cs.map .char) := by
  rw [decodeRunes?, pieces_encode]
  induction cs with
  | nil => rfl
  | cons c rest ih => rw [List.map_cons, runes?, ih, List.map_cons, Option.map_some]

/-! ## Any bytes -/

/-- A byte that can carry on a character begins none. -/
theorem length_pieces_of_continues {a : Nat} (h : continues a = true) (rest : List Nat) :
    (pieces (a :: rest)).length = (pieces rest).length + 1 := by
  have hbounds : 0x80 ≤ a ∧ a ≤ 0xBF := by simpa [continues] using h
  have hbegins : ∀ b, begins a b = false := fun b => Bool.eq_false_iff.mpr fun hbegins => by
    have := le_of_begins hbegins
    omega
  rw [pieces.eq_def]
  dsimp only
  rw [if_neg (by omega)]
  cases rest with
  | nil => rfl
  | cons b rest => simp [hbegins b]

/-- Every byte adds one character at most: those behind it that it is joined with would have made a
character each. -/
theorem length_pieces_cons_le (a : Nat) (rest : List Nat) :
    (pieces (a :: rest)).length ≤ (pieces rest).length + 1 := by
  rw [pieces.eq_def]
  dsimp only
  split
  next => exact Nat.le_refl _
  next =>
    split
    next => exact Nat.le_refl _
    next b rest =>
      split
      next => exact Nat.le_refl _
      next hbegins =>
        rw [length_pieces_of_continues (continues_of_begins (by simpa using hbegins))]
        split
        next => simp only [List.length_cons]; omega
        next =>
          split
          next => simp
          next c rest =>
            split
            next => simp
            next hthird =>
              rw [length_pieces_of_continues (by simpa using hthird)]
              split
              next => simp only [List.length_cons]; omega
              next =>
                split
                next => simp
                next d rest =>
                  split
                  next => simp
                  next hfourth =>
                    rw [length_pieces_of_continues (by simpa using hfourth)]
                    simp only [List.length_cons]
                    omega

theorem length_decode_cons_le (b : UInt8) (bytes : List UInt8) :
    (decode (b :: bytes)).length ≤ (decode bytes).length + 1 := by
  rw [decode, decode, List.length_map, List.length_map]
  exact length_pieces_cons_le b.toNat _

end DesignBridge.Utf8
