import DesignBridge.Json.Reader
import DesignBridge.Json.Writer
import DesignBridge.Proofs.Text.Halves

/-! # Texts read back

A text that was written in quotes and ASCII reads as the same text, but for halves of one pair that
stand side by side: those are read as the character they make. Every character is written as itself,
as a short escape, as one code unit or as a pair of them; each form is read back on its own.
-/

namespace DesignBridge.Json

open Text

/-! ## Code units -/

theorem hexValue?_hexDigit : ∀ n < 16, hexValue? (hexDigit n) = some n := by
  decide

/-- The four digits of a code unit. -/
theorem hexPadded_four (n : Nat) :
    hexPadded 4 n = [hexDigit (n / 4096 % 16), hexDigit (n / 256 % 16), hexDigit (n / 16 % 16),
      hexDigit (n % 16)] := by
  simp [hexPadded, Nat.div_div_eq_div_mul]

namespace Reader

theorem hexUnit?_digits {n : Nat} (h : n < 0x10000) :
    hexUnit? (hexDigit (n / 4096 % 16)) (hexDigit (n / 256 % 16)) (hexDigit (n / 16 % 16))
      (hexDigit (n % 16)) = some n := by
  unfold hexUnit?
  have hdigit : ∀ m, hexValue? (hexDigit (m % 16)) = some (m % 16) :=
    fun m => hexValue?_hexDigit _ (Nat.mod_lt _ (by decide))
  rw [hdigit, hdigit, hdigit, hdigit]
  simp only [Option.bind_eq_bind, Option.bind_some, Option.pure_def, Option.some.injEq]
  omega

/-- The digits of a code unit are read back when something follows them. -/
theorem readUnit_hexPadded {n : Nat} (h : n < 0x10000) {tail : List Rune} (htail : tail ≠ []) :
    readUnit ((hexPadded 4 n).map .char ++ tail) = .ok (n, tail) := by
  cases tail with
  | nil => exact absurd rfl htail
  | cons e rest =>
      simp [hexPadded_four, readUnit, hexUnit?_digits h]

/-- A unit that begins no pair is read on its own. -/
theorem readUnitEscape_single {n : Nat} (h : n < 0x10000) (hhigh : ¬ (0xD800 ≤ n ∧ n ≤ 0xDBFF))
    {tail : List Rune} (htail : tail ≠ []) :
    readUnitEscape ((hexPadded 4 n).map .char ++ tail) = .ok (.ofNat n, tail) := by
  unfold readUnitEscape
  rw [readUnit_hexPadded h htail]
  dsimp only
  rw [if_neg hhigh]

/-- Whether no escape of the second half of a pair stands here, and what stands here is no broken
escape. -/
def NoSecond (tail : List Rune) : Prop :=
  ∀ more, tail = .char '\\' :: .char 'u' :: more →
    ∃ n rest, readUnit more = .ok (n, rest) ∧ ¬ (0xDC00 ≤ n ∧ n ≤ 0xDFFF)

/-- A unit is read on its own where no second half follows. -/
theorem readUnitEscape_noSecond {n : Nat} (h : n < 0x10000) {tail : List Rune} (htail : tail ≠ [])
    (hnext : NoSecond tail) :
    readUnitEscape ((hexPadded 4 n).map .char ++ tail) = .ok (.ofNat n, tail) := by
  unfold readUnitEscape
  rw [readUnit_hexPadded h htail]
  dsimp only
  split
  next =>
    split
    next more =>
      obtain ⟨second, rest, hread, hsecond⟩ := hnext more rfl
      rw [hread]
      dsimp only
      rw [if_neg hsecond, ite_self]
    next => rfl
  next => rfl

/-- Two units in a row make one character when they are the halves of a pair. -/
theorem readUnitEscape_of_units {cs more tail : List Rune} {first second : Nat}
    (hfirst : readUnit cs = .ok (first, .char '\\' :: .char 'u' :: more))
    (hsecond : readUnit more = .ok (second, tail)) (hmore : (more.drop 4).isEmpty = false)
    (hhigh : 0xD800 ≤ first ∧ first ≤ 0xDBFF) (hlow : 0xDC00 ≤ second ∧ second ≤ 0xDFFF) :
    readUnitEscape cs =
      .ok (.char (Char.ofNat (0x10000 + (first - 0xD800) * 0x400 + (second - 0xDC00))), tail) := by
  unfold readUnitEscape
  rw [hfirst]
  dsimp only
  rw [if_pos hhigh]
  split
  next behind heq =>
    obtain rfl : more = behind := by simpa using heq
    rw [hmore, if_neg Bool.false_ne_true, hsecond]
    dsimp only
    rw [if_pos hlow]
  next hother => exact absurd rfl (hother more)

/-- A pair of code units is read back as one character. -/
theorem readUnitEscape_pair {first second : Nat} (hhigh : 0xD800 ≤ first ∧ first ≤ 0xDBFF)
    (hlow : 0xDC00 ≤ second ∧ second ≤ 0xDFFF) {tail : List Rune} (htail : tail ≠ []) :
    readUnitEscape ((hexPadded 4 first).map .char ++ ((unitEscape second).map .char ++ tail)) =
      .ok (.char (Char.ofNat (0x10000 + (first - 0xD800) * 0x400 + (second - 0xDC00))), tail) := by
  have hfirst :
      readUnit ((hexPadded 4 first).map .char ++ ((unitEscape second).map .char ++ tail)) =
      .ok (first, .char '\\' :: .char 'u' :: ((hexPadded 4 second).map .char ++ tail)) :=
    readUnit_hexPadded (by omega) (by simp [unitEscape])
  have hmore : (((hexPadded 4 second).map Rune.char ++ tail).drop 4).isEmpty = false := by
    rw [hexPadded_four]
    cases tail with
    | nil => exact absurd rfl htail
    | cons e rest => rfl
  exact readUnitEscape_of_units hfirst (readUnit_hexPadded (by omega) htail) hmore hhigh hlow

/-! ## Runes -/

/-- The ways a character is written. -/
inductive Written (c : Char) : List Char → Prop where
  | plain (hcontrol : ¬ c.val < 0x20) (hquote : c ≠ '"') (hslash : c ≠ '\\') : Written c [c]
  | short (d : Char) (h : shortEscape? d = some c) : Written c ['\\', d]
  | unit (h : c.toNat < 0x10000) : Written c (unitEscape c.toNat)
  | pair (first second : Nat) (hhigh : 0xD800 ≤ first ∧ first ≤ 0xDBFF)
      (hlow : 0xDC00 ≤ second ∧ second ≤ 0xDFFF)
      (h : 0x10000 + (first - 0xD800) * 0x400 + (second - 0xDC00) = c.toNat) :
      Written c (unitEscape first ++ unitEscape second)

theorem written_escapeChar (c : Char) : Written c (escapeChar c) := by
  unfold escapeChar
  split
  next => exact .short '"' rfl
  next => exact .short '\\' rfl
  next => exact .short 'n' rfl
  next => exact .short 'r' rfl
  next => exact .short 't' rfl
  next => exact .short 'b' rfl
  next => exact .short 'f' rfl
  next hquote hslash _ _ _ _ _ =>
    have hvalid : c.toNat < 0xD800 ∨ (0xDFFF < c.toNat ∧ c.toNat < 0x110000) := c.valid
    dsimp only
    split
    next hplain =>
      have hcontrol : ¬ c.toNat < 0x20 := by omega
      exact .plain hcontrol hquote hslash
    next =>
      split
      next hbasic => exact .unit hbasic
      next hbasic => exact .pair _ _ (by omega) (by omega) (by omega)

theorem Written.ne_nil {c : Char} {cs : List Char} (h : Written c cs) : cs ≠ [] := by
  cases h with
  | plain => simp
  | short => simp
  | unit => simp [unitEscape]
  | pair => simp [unitEscape]

theorem char_notHalf (c : Char) : ¬ (0xD800 ≤ c.toNat ∧ c.toNat ≤ 0xDFFF) := by
  have hvalid : c.toNat < 0xD800 ∨ (0xDFFF < c.toNat ∧ c.toNat < 0x110000) := c.valid
  omega

/-- A character is read back from the way it is written. -/
theorem Written.readRune {c : Char} {cs : List Char} (h : Written c cs) (opening : List Rune)
    {tail : List Rune} (htail : tail ≠ []) :
    readRune opening (cs.map .char ++ tail) = .ok (some (.char c), tail) := by
  have hofNat : Rune.ofNat c.toNat = .char c := Rune.ofNat_toNat (.char c)
  cases h with
  | plain hcontrol hquote hslash => simp [Reader.readRune, hcontrol, hslash]
  | short d h =>
      have hunit : d ≠ 'u' := by
        rintro rfl
        cases h
      simp [Reader.readRune, h]
  | unit h =>
      show (readUnitEscape ((hexPadded 4 c.toNat).map .char ++ tail)).map _ = _
      rw [readUnitEscape_single h (by have := char_notHalf c; omega) htail, hofNat]
      rfl
  | pair first second hhigh hlow h =>
      rw [List.map_append, List.append_assoc]
      show (readUnitEscape ((hexPadded 4 first).map .char ++
        ((unitEscape second).map .char ++ tail))).map _ = _
      rw [readUnitEscape_pair hhigh hlow htail, h, Char.ofNat_toNat]
      rfl

/-- No character is written as the escape of a second half. -/
theorem Written.noSecond {c : Char} {cs : List Char} (h : Written c cs) {tail : List Rune}
    (htail : tail ≠ []) : NoSecond (cs.map .char ++ tail) := by
  intro more hmore
  cases h with
  | plain hcontrol hquote hslash => simp [hslash] at hmore
  | short d h =>
      obtain ⟨rfl, -⟩ : d = 'u' ∧ _ := by simpa using hmore
      cases h
  | unit h =>
      obtain rfl : (hexPadded 4 c.toNat).map .char ++ tail = more := by
        simpa [unitEscape] using hmore
      exact ⟨_, _, readUnit_hexPadded h htail, by have := char_notHalf c; omega⟩
  | pair first second hhigh hlow h =>
      obtain rfl :
          (hexPadded 4 first).map .char ++ ((unitEscape second).map .char ++ tail) = more := by
        simpa [unitEscape] using hmore
      exact ⟨_, _, readUnit_hexPadded (by omega) (by simp [unitEscape]), by omega⟩

theorem escapeRune_ne_nil (r : Rune) : escapeRune r ≠ [] := by
  cases r with
  | char c => exact (written_escapeChar c).ne_nil
  | half n => simp [escapeRune, unitEscape]

/-- A half is read back on its own where it begins no pair with what follows. -/
theorem readRune_half {n : Fin 0x800} {tail : List Rune} (htail : tail ≠ [])
    (hnext : n.val < 0x400 → NoSecond tail) (opening : List Rune) :
    readRune opening ((escapeRune (.half n)).map .char ++ tail) = .ok (some (.half n), tail) := by
  have hunit : (Rune.half n).toNat < 0x10000 := by
    have := n.isLt
    simp only [Rune.toNat, Rune.firstHalf]
    omega
  have hread : readUnitEscape ((hexPadded 4 (Rune.half n).toNat).map .char ++ tail) =
      .ok (.ofNat (Rune.half n).toNat, tail) := by
    by_cases hfirst : n.val < 0x400
    · exact readUnitEscape_noSecond hunit htail (hnext hfirst)
    · refine readUnitEscape_single hunit ?_ htail
      simp only [Rune.toNat, Rune.firstHalf]
      omega
  show (readUnitEscape ((hexPadded 4 (Rune.half n).toNat).map .char ++ tail)).map _ = _
  rw [hread, Rune.ofNat_toNat]
  rfl

/-- The first half of a pair is no second half. -/
theorem noSecond_half {n : Fin 0x800} (hfirst : n.val < 0x400) {tail : List Rune}
    (htail : tail ≠ []) : NoSecond ((escapeRune (.half n)).map .char ++ tail) := by
  intro more hmore
  obtain rfl : (hexPadded 4 (Rune.half n).toNat).map .char ++ tail = more := by
    simpa [escapeRune, unitEscape] using hmore
  refine ⟨_, _, readUnit_hexPadded ?_ htail, ?_⟩
  · simp only [Rune.toNat, Rune.firstHalf]
    omega
  · simp only [Rune.toNat, Rune.firstHalf]
    omega

/-- The halves of one pair are read back as the character they make. -/
theorem readRune_halves {first second : Fin 0x800} {c : Char}
    (hpair : Rune.paired? first second = some c) {tail : List Rune} (htail : tail ≠ [])
    (opening : List Rune) :
    readRune opening ((escapeRune (.half first)).map .char ++
      ((escapeRune (.half second)).map .char ++ tail)) = .ok (some (.char c), tail) := by
  unfold Rune.paired? at hpair
  split at hpair
  next h =>
    obtain rfl := Option.some.inj hpair
    have hhigh : 0xD800 ≤ (Rune.half first).toNat ∧ (Rune.half first).toNat ≤ 0xDBFF := by
      simp only [Rune.toNat, Rune.firstHalf]
      omega
    have hlow : 0xDC00 ≤ (Rune.half second).toNat ∧ (Rune.half second).toNat ≤ 0xDFFF := by
      simp only [Rune.toNat, Rune.firstHalf]
      omega
    have hvalue : 0x10000 + ((Rune.half first).toNat - 0xD800) * 0x400 +
        ((Rune.half second).toNat - 0xDC00) = 0x10000 + first * 0x400 + (second - 0x400) := by
      simp only [Rune.toNat, Rune.firstHalf]
      omega
    show (readUnitEscape ((hexPadded 4 _).map .char ++
      ((unitEscape _).map .char ++ tail))).map _ = _
    rw [readUnitEscape_pair hhigh hlow htail, hvalue]
    rfl
  next => cases hpair

/-! ## Texts -/

/-- The runes of a text as they are written, and what follows them. -/
def written (rs : List Rune) (rest : List Rune) : List Rune :=
  (rs.flatMap escapeRune).map .char ++ .char '"' :: rest

theorem written_cons (r : Rune) (rs rest : List Rune) :
    written (r :: rs) rest = (escapeRune r).map .char ++ written rs rest := by
  simp [written]

theorem written_ne_nil (rs rest : List Rune) : written rs rest ≠ [] := by
  simp [written]

/-- Only a second half is written as the escape of one. -/
theorem noSecond_written {rs : List Rune}
    (h : ∀ n more, rs = .half n :: more → n.val < 0x400) (rest : List Rune) :
    NoSecond (written rs rest) := by
  cases rs with
  | nil => exact fun more hmore => by simp [written] at hmore
  | cons r more =>
      rw [written_cons]
      cases r with
      | char c => exact (written_escapeChar c).noSecond (written_ne_nil more rest)
      | half n => exact noSecond_half (h n more rfl) (written_ne_nil more rest)

theorem readText_ok {opening cs tail : List Rune} {r : Rune}
    (hread : readRune opening cs = .ok (some r, tail)) (fuel : Nat) (acc : List Rune) :
    readText opening (fuel + 1) acc cs = readText opening fuel (r :: acc) tail := by
  simp [readText, hread]

theorem readText_written (opening rest : List Rune) (rs : List Rune) :
    ∀ (fuel : Nat) (acc : List Rune), rs.length < fuel →
      readText opening fuel acc (written rs rest) = .ok (acc.reverse ++ Rune.joined rs, rest) := by
  fun_induction Rune.joined rs with
  | case1 first second more c hpair ih =>
      intro fuel acc hfuel
      obtain ⟨fuel, rfl⟩ : ∃ k, fuel = k + 1 := ⟨fuel - 1, by omega⟩
      rw [written_cons, written_cons,
        readText_ok (readRune_halves hpair (written_ne_nil more rest) opening),
        ih fuel _ (by simp at hfuel; omega)]
      simp
  | case2 first second more hpair ih =>
      intro fuel acc hfuel
      obtain ⟨fuel, rfl⟩ : ∃ k, fuel = k + 1 := ⟨fuel - 1, by omega⟩
      have hnext : first.val < 0x400 → NoSecond (written (.half second :: more) rest) := by
        intro hfirst
        refine noSecond_written (fun n left heq => ?_) rest
        obtain ⟨rfl, -⟩ : second = n ∧ _ := by simpa using heq
        refine Nat.lt_of_not_le fun hsecond => ?_
        simp [Rune.paired?, hfirst, hsecond] at hpair
      rw [written_cons, readText_ok (readRune_half (written_ne_nil _ rest) hnext opening),
        ih fuel _ (by simp at hfuel; simp; omega)]
      simp
  | case3 r more hother ih =>
      intro fuel acc hfuel
      obtain ⟨fuel, rfl⟩ : ∃ k, fuel = k + 1 := ⟨fuel - 1, by omega⟩
      have hread : readRune opening ((escapeRune r).map .char ++ written more rest) =
          .ok (some r, written more rest) := by
        cases r with
        | char c => exact (written_escapeChar c).readRune opening (written_ne_nil more rest)
        | half n =>
            refine readRune_half (written_ne_nil more rest) (fun _ => ?_) opening
            exact noSecond_written (fun m left heq => (hother n m left rfl heq).elim) rest
      rw [written_cons, readText_ok hread, ih fuel _ (by simp at hfuel; omega)]
      simp
  | case4 =>
      intro fuel acc hfuel
      obtain ⟨fuel, rfl⟩ : ∃ k, fuel = k + 1 := ⟨fuel - 1, by omega⟩
      simp [written, readText, readRune]

/-- A written text from behind its opening quote on. -/
def quotedTail (s : Runes) : List Rune :=
  written s.list []

theorem toList_writeText (s : Runes) :
    (writeText s).toList.map .char = Rune.char '"' :: quotedTail s := by
  simp [writeText, quotedTail, written]

theorem length_lt_quotedTail (s : Runes) : s.list.length < (quotedTail s).length := by
  have hlength : ∀ rs : List Rune, rs.length ≤ (rs.flatMap escapeRune).length := by
    intro rs
    induction rs with
    | nil => simp
    | cons r rs ih =>
        have hpos := List.length_pos_iff.mpr (escapeRune_ne_nil r)
        rw [List.flatMap_cons, List.length_append, List.length_cons]
        omega
  have h := hlength s.list
  simp only [quotedTail, written, List.length_append, List.length_map, List.length_singleton]
  omega

/-- A text that was written is read back, but for pairs, and what follows it is left. -/
theorem readQuoted_written (s : Runes) {fuel : Nat} (hfuel : (quotedTail s).length ≤ fuel)
    (opening rest : List Rune) :
    readQuoted fuel opening (quotedTail s ++ rest) = .ok (s.joined, rest) := by
  have hlength := length_lt_quotedTail s
  have hread := readText_written opening rest s.list fuel [] (by omega)
  have htext : quotedTail s ++ rest = written s.list rest := by
    simp [quotedTail, written]
  unfold readQuoted
  rw [htext, hread]
  simp [Except.map, Runes.joined]

end Reader

end DesignBridge.Json
