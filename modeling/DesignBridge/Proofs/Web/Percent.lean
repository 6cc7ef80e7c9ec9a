import DesignBridge.Proofs.Web.Utf8
import DesignBridge.Web.Percent

/-! # Percent-encoding read back

A text that is written with escapes is read as the same text. If the percent sign stands for itself
that is so just for a text without escapes of its own; one with such an escape is read as a shorter
text.
-/

namespace DesignBridge.Percent

open Text

/-! ## Escapes -/

/-- Whether a text begins with an escape. -/
def startsEscape : List Char → Bool
  | '%' :: high :: low :: _ => (byte? high low).isSome
  | _ => false

/-- Whether there is an escape in a text. -/
def hasEscape : List Char → Bool
  | [] => false
  | c :: rest => startsEscape (c :: rest) || hasEscape rest

theorem startsEscape_cons_of_ne {c : Char} (h : c ≠ '%') (rest : List Char) :
    startsEscape (c :: rest) = false := by
  unfold startsEscape
  split
  next heq => exact absurd (List.cons.inj heq).1 h
  next => rfl

/-- Both characters behind the sign of an escape are hexadecimal digits. -/
theorem isSome_byte? (high low : Char) :
    (byte? high low).isSome = ((hexValue? high).isSome && (hexValue? low).isSome) := by
  unfold byte?
  cases hexValue? high <;> cases hexValue? low <;> rfl

theorem hexValue?_percent : hexValue? '%' = none := rfl

theorem byte?_digits (b : UInt8) :
    byte? (hexDigitUpper (b.toNat / 16)) (hexDigitUpper (b.toNat % 16)) = some b := by
  have hb : b.toNat < 256 := UInt8.toNat_lt b
  unfold byte?
  rw [hexValue?_hexDigitUpper _ (by omega), hexValue?_hexDigitUpper _ (by omega)]
  have hparts : 16 * (b.toNat / 16) + b.toNat % 16 = b.toNat := by omega
  simp only [Option.bind_eq_bind, Option.bind_some, Option.pure_def, hparts, UInt8.ofNat_toNat]

/-- A byte is written as an escape of three characters, and more follows. -/
theorem exists_escapeChar (c : Char) :
    ∃ high low more, escapeChar c = '%' :: high :: low :: more := by
  have hne : String.utf8EncodeChar c ≠ [] := fun hnil => by
    have hread := Utf8.decode_append_of_char c []
    rw [hnil] at hread
    cases hread
  obtain ⟨b, bytes, hbytes⟩ := List.exists_cons_of_ne_nil hne
  rw [escapeChar, hbytes]
  exact ⟨_, _, _, rfl⟩

/-! ## The bytes of a text with escapes -/

theorem bytes_escapeByte_append (b : UInt8) (cs : List Char) :
    bytes (escapeByte b ++ cs) = b :: bytes cs := by
  rw [escapeByte, List.cons_append, List.cons_append, List.singleton_append, bytes.eq_def]
  simp only [byte?_digits, if_true]

theorem bytes_escapeChar_append (c : Char) (cs : List Char) :
    bytes (escapeChar c ++ cs) = String.utf8EncodeChar c ++ bytes cs := by
  unfold escapeChar
  induction String.utf8EncodeChar c with
  | nil => rfl
  | cons b rest ih =>
      rw [List.flatMap_cons, List.append_assoc, bytes_escapeByte_append, ih, List.cons_append]

/-- What begins no escape is a byte by itself. -/
theorem bytes_cons {c : Char} {cs : List Char} (h : startsEscape (c :: cs) = false) :
    bytes (c :: cs) = c.toUInt8 :: bytes cs := by
  rw [bytes.eq_def]
  dsimp only
  split
  next hc =>
    subst hc
    split
    next high low after =>
      rw [startsEscape] at h
      cases hb : byte? high low with
      | none => rfl
      | some b => simp [hb] at h
    next => rfl
  next => rfl

theorem bytes_escape {high low : Char} {b : UInt8} (h : byte? high low = some b) (cs : List Char) :
    bytes ('%' :: high :: low :: cs) = b :: bytes cs := by
  rw [bytes.eq_def]
  simp only [h, if_true]

/-! ## Texts -/

/-- Whether the characters of a class can stand for themselves: they are in ASCII, and hexadecimal
digits are among them. -/
structure IsPlain (safe : Char → Bool) : Prop where
  ascii : ∀ c, safe c = true → c.toNat < 0x80
  digits : ∀ c, (hexValue? c).isSome = true → safe c = true

theorem mem_digits_of_isSome {c : Char} (h : (hexValue? c).isSome = true) :
    c ∈ "0123456789abcdefABCDEF".toList := by
  have hbound : c.toNat < 0x80 := by
    unfold hexValue? at h
    split at h
    next hc => exact Nat.lt_of_le_of_lt hc.2 (by decide)
    next =>
      split at h
      next hc => exact Nat.lt_of_le_of_lt hc.2 (by decide)
      next =>
        split at h
        next hc => exact Nat.lt_of_le_of_lt hc.2 (by decide)
        next => cases h
  have hcheck : ∀ n < 0x80, (hexValue? (Char.ofNat n)).isSome = true →
      Char.ofNat n ∈ "0123456789abcdefABCDEF".toList := by decide +kernel
  simpa using hcheck c.toNat hbound (by simpa using h)

theorem IsPlain.of_digits {safe : Char → Bool} (hascii : ∀ c, safe c = true → c.toNat < 0x80)
    (hdigits : "0123456789abcdefABCDEF".toList.all safe = true) : IsPlain safe :=
  ⟨hascii, fun c hc => List.all_eq_true.mp hdigits c (mem_digits_of_isSome hc)⟩

theorem lt_of_isUnreserved {c : Char} (h : isUnreserved c = true) : c.toNat < 0x80 := by
  have hle : ∀ d : Char, d.toNat < 0x80 → c.val ≤ d.val → c.toNat < 0x80 := fun d hd hcd =>
    Nat.lt_of_le_of_lt hcd hd
  simp only [isUnreserved, Bool.or_eq_true, beq_iff_eq] at h
  obtain (((hword | rfl) | rfl) | rfl) | rfl := h
  · obtain hletter | hdigit := Bool.or_eq_true_iff.mp hword
    · obtain hupper | hlower := Bool.or_eq_true_iff.mp hletter
      · exact hle 'Z' (by decide) (of_decide_eq_true hupper).2
      · exact hle 'z' (by decide) (of_decide_eq_true (Bool.and_eq_true_iff.mp hlower).2)
    · exact hle '9' (by decide) (of_decide_eq_true (Bool.and_eq_true_iff.mp hdigit).2)
  all_goals decide

section

variable {safe : Char → Bool} {c : Char} {cs rest : List Char}

theorem encode_cons (safe : Char → Bool) (c : Char) (rest : List Char) :
    encode safe (c :: rest) = (if safe c then [c] else escapeChar c) ++ encode safe rest := rfl

theorem encode_append (safe : Char → Bool) (cs rest : List Char) :
    encode safe (cs ++ rest) = encode safe cs ++ encode safe rest :=
  List.flatMap_append

/-- A text of characters that stand for themselves is written as it is. -/
theorem encode_of_safe (h : ∀ c ∈ cs, safe c = true) : encode safe cs = cs := by
  induction cs with
  | nil => rfl
  | cons c rest ih =>
      rw [encode_cons, if_pos (h c List.mem_cons_self), List.singleton_append,
        ih fun d hd => h d (List.mem_cons_of_mem _ hd)]

/-- Where nothing is escaped, all is written as it is. -/
theorem encode_of_percent_not_mem (h : '%' ∉ encode safe cs) : encode safe cs = cs := by
  refine encode_of_safe fun c hc => Bool.of_not_eq_false fun hsafe => h ?_
  obtain ⟨high, low, more, hescape⟩ := exists_escapeChar c
  refine List.mem_flatMap.mpr ⟨c, hc, ?_⟩
  rw [hsafe, if_neg Bool.false_ne_true, hescape]
  exact List.mem_cons_self

theorem mem_escapeChar (hmem : c ∈ escapeChar d) : c = '%' ∨ (hexValue? c).isSome = true := by
  obtain ⟨b, _, hc⟩ := List.mem_flatMap.mp hmem
  have hb : b.toNat < 256 := UInt8.toNat_lt b
  simp only [escapeByte, List.mem_cons, List.not_mem_nil, or_false] at hc
  obtain rfl | rfl | rfl := hc
  · exact .inl rfl
  · rw [hexValue?_hexDigitUpper _ (by omega)]
    exact .inr rfl
  · rw [hexValue?_hexDigitUpper _ (by omega)]
    exact .inr rfl

/-- Whatever is written stands for itself or belongs to an escape. -/
theorem mem_encode (hmem : c ∈ encode safe cs) :
    c ∈ cs ∧ safe c = true ∨ c = '%' ∨ (hexValue? c).isSome = true := by
  obtain ⟨d, hd, hc⟩ := List.mem_flatMap.mp hmem
  split at hc
  next hsafe =>
    obtain rfl := List.mem_singleton.mp hc
    exact .inl ⟨hd, hsafe⟩
  next => exact .inr (mem_escapeChar hc)

/-- Where the percent sign stands for itself, everything that is written does. -/
theorem IsPlain.safe_of_mem_encode (h : IsPlain safe) (hpercent : safe '%' = true)
    (hmem : c ∈ encode safe cs) : safe c = true := by
  obtain ⟨_, hsafe⟩ | rfl | hdigit := mem_encode hmem
  · exact hsafe
  · exact hpercent
  · exact h.digits c hdigit

/-- So writing a text once more changes nothing. -/
theorem IsPlain.encode_encode (h : IsPlain safe) (hpercent : safe '%' = true) (cs : List Char) :
    encode safe (encode safe cs) = encode safe cs :=
  encode_of_safe fun _ hmem => h.safe_of_mem_encode hpercent hmem

theorem IsPlain.ascii_of_mem_encode (h : IsPlain safe) (hmem : c ∈ encode safe cs) :
    c.toNat < 0x80 := by
  obtain ⟨_, hsafe⟩ | rfl | hdigit := mem_encode hmem
  · exact h.ascii c hsafe
  · decide
  · exact h.ascii c (h.digits c hdigit)

/-- Text that is written has no escapes but those of the text and those that are written for
characters. -/
theorem IsPlain.startsEscape_encode (h : IsPlain safe) (rest : List Char) :
    startsEscape ('%' :: encode safe rest) = startsEscape ('%' :: rest) := by
  have hunsafe : ∀ {d}, ¬ safe d = true → (hexValue? d).isSome = false := fun hd =>
    Bool.eq_false_iff.mpr fun hdigit => hd (h.digits _ hdigit)
  cases rest with
  | nil => rfl
  | cons high more =>
      by_cases hhigh : safe high = true
      · rw [encode_cons, if_pos hhigh, List.singleton_append]
        cases more with
        | nil => rfl
        | cons low after =>
            by_cases hlow : safe low = true
            · rw [encode_cons, if_pos hlow]
              rfl
            · obtain ⟨x, y, z, hescape⟩ := exists_escapeChar low
              rw [encode_cons, if_neg hlow, hescape, List.cons_append, startsEscape, startsEscape,
                isSome_byte?, isSome_byte?, hunsafe hlow, hexValue?_percent]
              rfl
      · obtain ⟨x, y, z, hescape⟩ := exists_escapeChar high
        rw [encode_cons, if_neg hhigh, hescape, List.cons_append, List.cons_append, startsEscape,
          isSome_byte?, hexValue?_percent]
        cases more with
        | nil => rfl
        | cons low after => rw [startsEscape, isSome_byte?, hunsafe hhigh]; rfl

theorem utf8EncodeChar_of_lt (h : c.toNat < 0x80) : String.utf8EncodeChar c = [c.toUInt8] := by
  unfold String.utf8EncodeChar
  exact if_pos (Nat.le_of_lt_succ h)

/-- A character that begins no escape adds its own bytes. -/
theorem IsPlain.bytes_encode_cons (h : IsPlain safe)
    (hstarts : safe '%' = true → startsEscape (c :: rest) = false) :
    bytes (encode safe (c :: rest)) = String.utf8EncodeChar c ++ bytes (encode safe rest) := by
  rw [encode_cons]
  split
  next hsafe =>
    have hplain : startsEscape (c :: encode safe rest) = false := by
      by_cases hc : c = '%'
      · subst hc
        rw [h.startsEscape_encode, hstarts hsafe]
      · exact startsEscape_cons_of_ne hc _
    rw [List.singleton_append, bytes_cons hplain, utf8EncodeChar_of_lt (h.ascii c hsafe),
      List.singleton_append]
  next => exact bytes_escapeChar_append c _

/-- An escape adds the one byte that it stands for. -/
theorem IsPlain.bytes_encode_escape (h : IsPlain safe) (hpercent : safe '%' = true)
    {high low : Char} {b : UInt8} (hb : byte? high low = some b) (rest : List Char) :
    bytes (encode safe ('%' :: high :: low :: rest)) = b :: bytes (encode safe rest) := by
  have hdigits : (hexValue? high).isSome = true ∧ (hexValue? low).isSome = true := by
    rw [← Bool.and_eq_true, ← isSome_byte?, hb]
    rfl
  rw [encode_cons, encode_cons, encode_cons, if_pos hpercent, if_pos (h.digits _ hdigits.1),
    if_pos (h.digits _ hdigits.2)]
  exact bytes_escape hb _

theorem decodeAfter_of_ascii (run : List Char) (h : ∀ c ∈ cs, c.toNat < 0x80) :
    decodeAfter run cs = Utf8.decode (bytes (run.reverse ++ cs)) := by
  induction cs generalizing run with
  | nil => rw [decodeAfter, List.append_nil]
  | cons c rest ih =>
      rw [decodeAfter, if_pos (h c List.mem_cons_self),
        ih _ fun d hd => h d (List.mem_cons_of_mem _ hd), List.reverse_cons, List.append_assoc,
        List.singleton_append]

theorem IsPlain.decode_eq (h : IsPlain safe) (cs : List Char) :
    decode (encode safe cs) = Utf8.decode (bytes (encode safe cs)) :=
  decodeAfter_of_ascii [] fun _ hmem => h.ascii_of_mem_encode hmem

/-- What is written is read as the same text, if the text has no escapes or the percent sign does
not stand for itself. -/
theorem IsPlain.decode_encode (h : IsPlain safe)
    (hnone : safe '%' = true → hasEscape cs = false) : decode (encode safe cs) = cs := by
  have hbytes : bytes (encode safe cs) = Utf8.encode cs := by
    induction cs with
    | nil => rfl
    | cons c rest ih =>
        have hparts := fun hpercent => Bool.or_eq_false_iff.mp (hnone hpercent)
        rw [h.bytes_encode_cons fun hpercent => (hparts hpercent).1,
          ih fun hpercent => (hparts hpercent).2]
        rfl
  rw [h.decode_eq, hbytes, Utf8.decode_encode]

/-- No text is read as a longer one, and an escape in it makes it shorter. -/
theorem IsPlain.length_decode_encode_le (h : IsPlain safe) (hpercent : safe '%' = true)
    (cs : List Char) :
    (decode (encode safe cs)).length + (if hasEscape cs then 1 else 0) ≤ cs.length := by
  rw [h.decode_eq]
  induction hn : cs.length using Nat.strongRecOn generalizing cs with
  | ind n ih =>
      subst hn
      cases cs with
      | nil => exact Nat.le_refl 0
      | cons c rest =>
          by_cases hstarts : startsEscape (c :: rest) = true
          · unfold startsEscape at hstarts
            split at hstarts
            next high low after heq =>
              obtain ⟨rfl, rfl⟩ := List.cons.inj heq
              obtain ⟨b, hb⟩ := Option.isSome_iff_exists.mp hstarts
              have hafter := ih after.length (by simp only [List.length_cons]; omega) after rfl
              have hbyte := Utf8.length_decode_cons_le b (bytes (encode safe after))
              rw [h.bytes_encode_escape hpercent hb]
              simp only [List.length_cons]
              split <;> omega
            next => cases hstarts
          · have hstarts : startsEscape (c :: rest) = false := by simpa using hstarts
            have hrest := ih rest.length (by simp) rest rfl
            rw [h.bytes_encode_cons fun _ => hstarts, Utf8.decode_append_of_char, hasEscape,
              hstarts, Bool.false_or]
            simp only [List.length_cons]
            omega

end

end DesignBridge.Percent
