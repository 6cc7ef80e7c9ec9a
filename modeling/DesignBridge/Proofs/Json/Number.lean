import DesignBridge.Json.Reader
import DesignBridge.Json.Writer
import DesignBridge.Proofs.Number.Form

/-! # Numbers read back

A number that was written is read to its end, as long as nothing follows that could belong to it. An
integer is read back as itself unless it has too many digits; a double is read back as a double.
-/

namespace DesignBridge.Json.Reader

open Text

/-- Whether no digit stands at the front. -/
def NoDigit (rest : List Char) : Prop :=
  ∀ c ∈ rest.head?, isAsciiDigit c = false

/-- Whether nothing at the front could belong to a number before it. -/
def Ends (rest : List Char) : Prop :=
  ∀ c ∈ rest.head?, isAsciiDigit c = false ∧ c ≠ '.' ∧ c ≠ 'e' ∧ c ≠ 'E'

theorem Ends.noDigit {rest : List Char} (h : Ends rest) : NoDigit rest :=
  fun c hc => (h c hc).1

theorem takeWhile_digits {ds rest : List Char} (h : ∀ c ∈ ds, isAsciiDigit c = true)
    (hrest : NoDigit rest) : (ds ++ rest).takeWhile isAsciiDigit = ds := by
  rw [List.takeWhile_append_of_pos h]
  cases rest with
  | nil => simp
  | cons c rest => simp [hrest c rfl]

theorem dropWhile_digits {ds rest : List Char} (h : ∀ c ∈ ds, isAsciiDigit c = true)
    (hrest : NoDigit rest) : (ds ++ rest).dropWhile isAsciiDigit = rest := by
  rw [List.dropWhile_append_of_pos h]
  cases rest with
  | nil => simp
  | cons c rest => simp [hrest c rfl]

/-! ## Parts -/

theorem takeWhole?_written {ds rest : List Char} (h : IsWhole ds) (hrest : NoDigit rest) :
    takeWhole? (ds ++ rest) = some (ds, rest) := by
  rcases h with rfl | ⟨h, hhead⟩
  · rfl
  · have ⟨hnil, hdigits⟩ := h
    cases ds with
    | nil => exact absurd rfl hnil
    | cons c more =>
        have hmore : ∀ d ∈ more, isAsciiDigit d = true :=
          fun d hd => hdigits d (List.mem_cons_of_mem _ hd)
        rw [List.cons_append]
        unfold takeWhole?
        split
        next rest' heq =>
          obtain ⟨rfl, _⟩ := List.cons.inj heq
          exact absurd rfl hhead
        next c' rest' _ heq =>
          obtain ⟨rfl, rfl⟩ := List.cons.inj heq
          rw [if_pos (hdigits c (List.mem_cons_self ..)), takeWhile_digits hmore hrest,
            dropWhile_digits hmore hrest]
        next heq => cases heq

theorem takeFraction_written {ds rest : List Char} (h : IsDigits ds) (hrest : NoDigit rest) :
    takeFraction ('.' :: (ds ++ rest)) = (some ds, rest) := by
  have ⟨hnil, hdigits⟩ := h
  cases ds with
  | nil => exact absurd rfl hnil
  | cons c more =>
      have hmore : ∀ d ∈ more, isAsciiDigit d = true :=
        fun d hd => hdigits d (List.mem_cons_of_mem _ hd)
      simp only [takeFraction, List.cons_append]
      rw [if_pos (hdigits c (List.mem_cons_self ..)), takeWhile_digits hmore hrest,
        dropWhile_digits hmore hrest]

theorem takeFraction_none {rest : List Char} (h : ∀ c ∈ rest.head?, c ≠ '.') :
    takeFraction rest = (none, rest) := by
  unfold takeFraction
  split
  next => exact absurd rfl (h '.' rfl)
  next => rfl

theorem takeExponent_none {rest : List Char} (h : ∀ c ∈ rest.head?, c ≠ 'e' ∧ c ≠ 'E') :
    takeExponent rest = (none, rest) := by
  unfold takeExponent
  split
  next c rest =>
    obtain ⟨hlower, hupper⟩ := h c rfl
    rw [if_neg (by simp [hlower, hupper])]
  next => rfl

theorem takeExponent_digits (negative : Bool) {ds rest : List Char} (h : IsDigits ds)
    (hrest : NoDigit rest) :
    takeExponent ('e' :: (if negative then '-' else '+') :: (ds ++ rest)) =
      (some (if negative then -(natOfDigits ds : Int) else natOfDigits ds), rest) := by
  have hsign : Numeral.takeSign ((if negative then '-' else '+') :: (ds ++ rest)) =
      (negative, ds ++ rest) := by
    cases negative <;> rfl
  unfold takeExponent
  dsimp only
  rw [if_pos (Or.inl rfl), hsign]
  dsimp only
  rw [takeWhile_digits h.digits hrest, dropWhile_digits h.digits hrest,
    if_neg (by simp [h.ne_nil])]

/-- An exponent that was written is read back. -/
theorem takeExponent_written (e : Int) {rest : List Char} (hrest : NoDigit rest) :
    takeExponent (Number.exponentText e ++ rest) = (some e, rest) := by
  have hpadded : ∃ ds, IsDigits ds ∧ natOfDigits ds = e.natAbs ∧
      Number.exponentText e = 'e' :: (if decide (e < 0) then '-' else '+') :: ds := by
    have hdigits := isDigits_toDigits e.natAbs
    have hvalue := natOfDigits_toDigits e.natAbs
    simp only [Number.exponentText, decide_eq_true_eq]
    -- A single digit has a zero before it, which does not change its value.
    by_cases hshort : (Nat.toDigits 10 e.natAbs).length < 2
    · rw [if_pos hshort]
      refine ⟨'0' :: Nat.toDigits 10 e.natAbs, ⟨List.cons_ne_nil _ _, fun c hc => ?_⟩, hvalue, rfl⟩
      rcases List.mem_cons.mp hc with rfl | hc
      · rfl
      · exact hdigits.digits c hc
    · rw [if_neg hshort]
      exact ⟨_, hdigits, hvalue, rfl⟩
  obtain ⟨ds, hdigits, hvalue, htext⟩ := hpadded
  rw [htext, List.cons_append, List.cons_append, takeExponent_digits _ hdigits hrest, hvalue]
  rw [Number.signed_natAbs]

theorem exponentText_head (e : Int) (rest : List Char) :
    ∀ c ∈ (Number.exponentText e ++ rest).head?, c = 'e' := by
  intro c hc
  exact (Option.some.inj hc).symm

/-! ## Numbers -/

/-- The double with given parts. -/
def realOfParts (negative : Bool) (whole : List Char) (fraction : Option (List Char))
    (exponent : Option Int) : Float :=
  let ds := fraction.getD []
  let x := Numeral.realOfDigits (whole ++ ds) (exponent.getD 0 - ds.length)
  if negative then -x else x

/-- The number with given parts, or the number of digits that are too many. -/
def ofParts (negative : Bool) (whole : List Char) (fraction : Option (List Char))
    (exponent : Option Int) : Except Nat Json :=
  if fraction.isNone && exponent.isNone then
    if Numeral.maxDigits < whole.length then .error whole.length
    else .ok (.int (if negative then -(natOfDigits whole : Int) else natOfDigits whole))
  else .ok (.number (.real (realOfParts negative whole fraction exponent)))

/-- What reading comes to, with the input that is left. -/
def leaving {ρ α : Type} (rest : List ρ) : Except Nat α → Step ρ α
  | .ok a => .ok (a, rest)
  | .error digits => .error (.tooLong digits)

theorem readNumber_parts (negative : Bool)
    {unsigned whole afterWhole afterFraction rest : List Char}
    {fraction : Option (List Char)} {exponent : Option Int}
    (hwhole : takeWhole? unsigned = some (whole, afterWhole))
    (hfraction : takeFraction afterWhole = (fraction, afterFraction))
    (hexponent : takeExponent afterFraction = (exponent, rest)) :
    readNumber (signText negative ++ unsigned) =
      leaving rest (ofParts negative whole fraction exponent) := by
  -- A sign is no digit, so it is not taken for one here.
  have hminus : ∀ rest, unsigned ≠ '-' :: rest := by
    rintro rest rfl
    cases hwhole
  unfold readNumber ofParts
  split
  next sign left h =>
    have hsplit : negative = sign ∧ unsigned = left := by
      cases negative with
      | true => exact Prod.mk.inj h
      | false =>
          split at h
          next rest' heq => exact absurd heq (hminus rest')
          next => exact Prod.mk.inj h
    obtain ⟨rfl, rfl⟩ := hsplit
    simp only [hwhole, hfraction, hexponent]
    split
    next =>
      split
      next => rfl
      next => rfl
    next => rfl

theorem noDigit_point (rest : List Char) : NoDigit ('.' :: rest) := by
  rintro c hc
  obtain rfl := Option.some.inj hc
  rfl

theorem noDigit_exponent (e : Int) (rest : List Char) :
    NoDigit (Number.exponentText e ++ rest) := by
  rintro c hc
  obtain rfl := exponentText_head e rest c hc
  rfl

/-- A double that was written is read as a double, with or without a sign. -/
theorem readNumber_form (negative : Bool) {cs : List Char} (h : RealForm cs) :
    ∃ y : Float, ∀ rest, Ends rest →
      readNumber (signText negative ++ (cs ++ rest)) = .ok (.number (.real y), rest) := by
  cases h with
  | @pointed whole fraction hwhole hfraction =>
      refine ⟨realOfParts negative whole (some fraction) none, fun rest hrest => ?_⟩
      rw [List.append_assoc, List.cons_append]
      exact readNumber_parts negative (takeWhole?_written hwhole (noDigit_point _))
        (takeFraction_written hfraction hrest.noDigit)
        (takeExponent_none fun c hc => (hrest c hc).2.2)
  | @scaled whole hwhole e =>
      refine ⟨realOfParts negative whole none (some e), fun rest hrest => ?_⟩
      rw [List.append_assoc]
      exact readNumber_parts negative (takeWhole?_written hwhole (noDigit_exponent e rest))
        (takeFraction_none fun c hc => by rw [exponentText_head e rest c hc]; decide)
        (takeExponent_written e hrest.noDigit)
  | @both whole fraction hwhole hfraction e =>
      refine ⟨realOfParts negative whole (some fraction) (some e), fun rest hrest => ?_⟩
      rw [List.append_assoc, List.cons_append, List.append_assoc]
      exact readNumber_parts negative (takeWhole?_written hwhole (noDigit_point _))
        (takeFraction_written hfraction (noDigit_exponent e rest))
        (takeExponent_written e hrest.noDigit)

/-- What an integer is read back as: itself, unless it has too many digits. -/
def rereadInt (n : Int) : Except Nat Json :=
  if Numeral.maxDigits < (Nat.toDigits 10 n.natAbs).length then
    .error (Nat.toDigits 10 n.natAbs).length
  else .ok (.int n)

/-- An integer that was written is read back, unless it is too long. -/
theorem readNumber_intText (n : Int) {rest : List Char} (hrest : Ends rest) :
    readNumber ((Number.intText n).toList ++ rest) = leaving rest (rereadInt n) := by
  have hread := readNumber_parts (decide (n < 0))
    (takeWhole?_written (isWhole_toDigits n.natAbs) hrest.noDigit)
    (takeFraction_none fun c hc => (hrest c hc).2.1)
    (takeExponent_none fun c hc => (hrest c hc).2.2)
  rw [Number.toList_intText, List.append_assoc, hread]
  unfold ofParts rereadInt
  rw [natOfDigits_toDigits, Number.signed_natAbs]
  rfl

/-! ## Words -/

/-- No digit is among the first two characters of a word. -/
theorem words_letters : words.all (fun word => (List.range 2).all fun i =>
    (word.1[i]?).any fun c => !isAsciiDigit c) = true := by
  decide

/-- What has a digit among its first two characters is read as a number. -/
theorem readAtom_of_digit {cs : List Char} {i : Nat} {c : Char} (hi : i < 2)
    (hc : cs[i]? = some c) (hdigit : isAsciiDigit c = true) : readAtom cs = readNumber cs := by
  have hwords : words.find? (fun word => word.1.isPrefixOf cs) = none := by
    rw [List.find?_eq_none]
    intro word hword hprefix
    have hletter := List.all_eq_true.mp (List.all_eq_true.mp words_letters word hword) i
      (List.mem_range.mpr hi)
    obtain ⟨d, hd, hletter⟩ := (Option.any_eq_true _ _).mp hletter
    obtain ⟨rest, rfl⟩ := List.isPrefixOf_iff_prefix.mp hprefix
    have hlt := (List.getElem?_eq_some_iff.mp hd).1
    rw [List.getElem?_append_left hlt, hd] at hc
    obtain rfl := Option.some.inj hc
    simp [hdigit] at hletter
  unfold readAtom
  split
  next heq =>
    rw [hwords] at heq
    cases heq
  next => rfl

/-- What a double is read back as. -/
def rereadReal (x : Float) : Float :=
  match readAtom (writeNumber (.real x)).toList with
  | .ok (.number (.real y), _) => y
  | _ => x

/-- What a number is read back as. -/
def rereadNumber : Number → Except Nat Json
  | .int n => rereadInt n
  | .real x => .ok (.number (.real (rereadReal x)))

/-- A number with a sign is read as such, not as a word. -/
theorem readAtom_signed (negative : Bool) {c : Char} (hc : isAsciiDigit c = true)
    (cs : List Char) : readAtom (signText negative ++ c :: cs) =
      readNumber (signText negative ++ c :: cs) := by
  cases negative with
  | true => exact readAtom_of_digit Nat.one_lt_two rfl hc
  | false => exact readAtom_of_digit Nat.two_pos rfl hc

/-- A double is written as a word or as digits. -/
theorem toList_writeReal (x : Float) :
    (writeNumber (.real x)).toList ∈ ["NaN".toList, "Infinity".toList, "-Infinity".toList] ∨
      ∃ negative size, RealForm size ∧
        (writeNumber (.real x)).toList = signText negative ++ size := by
  unfold writeNumber
  dsimp only
  split
  next => exact Or.inl (by simp)
  next hnan =>
    split
    next =>
      split
      next => exact Or.inl (by simp)
      next => exact Or.inl (by simp)
    next hinf =>
      obtain ⟨b, hb⟩ := Number.exists_parts (Bool.eq_false_iff.mpr hnan)
        (Bool.eq_false_iff.mpr hinf)
      obtain ⟨size, hform, htext⟩ := Number.realText_form hb
      exact Or.inr ⟨b.negative, size, hform, htext⟩

theorem readAtom_real (x : Float) : ∃ y : Float, ∀ rest, Ends rest →
    readAtom ((writeNumber (.real x)).toList ++ rest) = .ok (.number (.real y), rest) := by
  rcases toList_writeReal x with hword | ⟨negative, size, hform, htext⟩
  · simp only [List.mem_cons, List.not_mem_nil, or_false] at hword
    rcases hword with htext | htext | htext
    · exact ⟨0.0 / 0.0, fun rest _ => htext ▸ rfl⟩
    · exact ⟨1.0 / 0.0, fun rest _ => htext ▸ rfl⟩
    · exact ⟨-1.0 / 0.0, fun rest _ => htext ▸ rfl⟩
  · obtain ⟨y, hy⟩ := readNumber_form negative hform
    obtain ⟨c, more, rfl, hdigit⟩ := hform.digit
    refine ⟨y, fun rest hrest => ?_⟩
    rw [htext, List.append_assoc]
    exact (readAtom_signed negative hdigit (more ++ rest)).trans (hy rest hrest)

/-- Whether a word or a number can begin with a character. -/
def BeginsAtom (c : Char) : Prop :=
  isAsciiDigit c = true ∨ c ∈ ['-', 'N', 'I', 'n', 't', 'f']

theorem beginsAtom_signed (negative : Bool) {c : Char} (hc : isAsciiDigit c = true)
    (cs : List Char) : ∃ d more, signText negative ++ c :: cs = d :: more ∧ BeginsAtom d := by
  cases negative with
  | true => exact ⟨'-', _, rfl, Or.inr (by simp)⟩
  | false => exact ⟨c, cs, rfl, Or.inl hc⟩

theorem writeNumber_begins (n : Number) :
    ∃ c more, (writeNumber n).toList = c :: more ∧ BeginsAtom c := by
  cases n with
  | int n =>
      obtain ⟨c, more, hdigits, hc⟩ := (isDigits_toDigits n.natAbs).cons
      have htext : (writeNumber (.int n)).toList = _ := Number.toList_intText n
      rw [htext, hdigits]
      exact beginsAtom_signed _ hc more
  | real x =>
      rcases toList_writeReal x with hword | ⟨negative, size, hform, htext⟩
      · simp only [List.mem_cons, List.not_mem_nil, or_false] at hword
        rcases hword with htext | htext | htext
        · exact ⟨'N', _, htext, Or.inr (by simp)⟩
        · exact ⟨'I', _, htext, Or.inr (by simp)⟩
        · exact ⟨'-', _, htext, Or.inr (by simp)⟩
      · obtain ⟨c, more, rfl, hdigit⟩ := hform.digit
        rw [htext]
        exact beginsAtom_signed negative hdigit more

theorem ends_nil : Ends [] := by
  intro c hc
  cases hc

/-- A number that was written is read back, whatever follows that does not belong to it. -/
theorem readAtom_writeNumber (n : Number) {rest : List Char} (hrest : Ends rest) :
    readAtom ((writeNumber n).toList ++ rest) = leaving rest (rereadNumber n) := by
  cases n with
  | int n =>
      have hread := readNumber_intText n hrest
      obtain ⟨c, more, hdigits, hc⟩ := (isDigits_toDigits n.natAbs).cons
      have htext : (writeNumber (.int n)).toList = _ := Number.toList_intText n
      rw [Number.toList_intText, hdigits, List.append_assoc] at hread
      rw [htext, hdigits, List.append_assoc]
      exact (readAtom_signed _ hc (more ++ rest)).trans hread
  | real x =>
      obtain ⟨y, hy⟩ := readAtom_real x
      have hreread : rereadReal x = y := by
        have hread := hy [] ends_nil
        rw [List.append_nil] at hread
        unfold rereadReal
        rw [hread]
      rw [hy rest hrest, ← hreread]
      rfl

end DesignBridge.Json.Reader
