/-! # Runes

The places of a text as JSON has them. Nearly all are characters; but an escape in a JSON text can
name half of a surrogate pair, and where its other half does not follow, that half is a place of
its own. No encoding of characters takes it, so a text with halves can be read and compared, but
not every way of writing it out succeeds.
-/

namespace DesignBridge

/-- One place of a text: a character, or half of a surrogate pair, given by its distance from the
first of them, U+D800. -/
inductive Rune where
  | char (c : Char)
  | half (n : Fin 0x800)
  deriving DecidableEq, Repr

namespace Rune

/-- The number of the first half. -/
def firstHalf : Nat := 0xD800

/-- The number of a rune. -/
def toNat : Rune → Nat
  | char c => c.toNat
  | half n => firstHalf + n

/-- The rune with a number. -/
def ofNat (n : Nat) : Rune :=
  if h : firstHalf ≤ n ∧ n - firstHalf < 0x800 then half ⟨n - firstHalf, h.2⟩
  else char (Char.ofNat n)

/-- Whether a rune is a character. -/
def isChar : Rune → Bool
  | char _ => true
  | half _ => false

/-- The character that shows a rune where only characters can stand. -/
def shown : Rune → Char
  | char c => c
  | half _ => '\uFFFD'

/-- Whether a rune is a character of a class. -/
def isIn (p : Char → Bool) : Rune → Bool
  | char c => p c
  | half _ => false

/-- The character that two halves make when they are those of one pair, in order. -/
def paired? (first second : Fin 0x800) : Option Char :=
  if first.val < 0x400 ∧ 0x400 ≤ second.val then
    some (Char.ofNat (0x10000 + first * 0x400 + (second - 0x400)))
  else none

/-- The characters at the front, and what stands behind them. -/
def leading : List Rune → List Char × List Rune
  | char c :: rest =>
    let (front, back) := leading rest
    (c :: front, back)
  | rest => ([], rest)

/-- Puts a character in place of every two halves of one pair that stand side by side. -/
def joined : List Rune → List Rune
  | half first :: half second :: rest =>
    match paired? first second with
    | some c => char c :: joined rest
    | none => half first :: joined (half second :: rest)
  | r :: rest => r :: joined rest
  | [] => []

@[simp] theorem ofNat_toNat (r : Rune) : ofNat r.toNat = r := by
  cases r with
  | char c =>
    have hvalid : c.toNat < 0xD800 ∨ (0xDFFF < c.toNat ∧ c.toNat < 0x110000) := c.valid
    have houtside : ¬ (firstHalf ≤ c.toNat ∧ c.toNat - firstHalf < 0x800) := by
      unfold firstHalf
      omega
    rw [toNat, ofNat, dif_neg houtside, Char.ofNat_toNat]
  | half n => simp [toNat, ofNat, firstHalf]

theorem leading_append (rs : List Rune) : (leading rs).1.map char ++ (leading rs).2 = rs := by
  fun_induction leading rs with
  | case1 c rest front back heq ih => simpa [heq] using ih
  | case2 rest => rfl

theorem leading_map_append (cs : List Char) (rs : List Rune) :
    leading (cs.map char ++ rs) = (cs ++ (leading rs).1, (leading rs).2) := by
  induction cs with
  | nil => rfl
  | cons c cs ih => simp [leading, ih]

theorem leading_chars (cs : List Char) : leading (cs.map char) = (cs, []) := by
  simpa [leading] using leading_map_append cs []

end Rune

/-- A text of characters and halves. -/
structure Runes where
  list : List Rune
  deriving DecidableEq, Repr

namespace Runes

/-- The text of some characters. -/
def ofChars (cs : List Char) : Runes :=
  ⟨cs.map .char⟩

@[coe]
def ofString (s : String) : Runes :=
  ofChars s.toList

instance : Coe String Runes := ⟨ofString⟩

instance : Inhabited Runes := ⟨⟨[]⟩⟩

instance : Append Runes := ⟨fun a b => ⟨a.list ++ b.list⟩⟩

/-- Whether all places of a text are characters. -/
def isWhole (r : Runes) : Bool :=
  r.list.all Rune.isChar

/-- The text as a string, if it has no halves. -/
def toString? (r : Runes) : Option String :=
  match Rune.leading r.list with
  | (cs, []) => some (String.ofList cs)
  | _ => none

def isEmpty (r : Runes) : Bool :=
  r.list.isEmpty

/-- The text with each half, where it stood, shown by three replacement characters. -/
def lossy (r : Runes) : String :=
  String.ofList (r.list.flatMap fun
    | .char c => [c]
    | .half _ => ['\uFFFD', '\uFFFD', '\uFFFD'])

/-- The text with a character in place of each half, for where only characters can stand. -/
def shown (r : Runes) : String :=
  String.ofList (r.list.map Rune.shown)

/-- The text with a character in place of every two halves of one pair that stand side by side. -/
def joined (r : Runes) : Runes :=
  ⟨Rune.joined r.list⟩

/-- Writes the pieces with `sep` between neighbours. -/
def join (sep : Runes) : List Runes → Runes
  | [] => ""
  | [piece] => piece
  | piece :: rest => piece ++ sep ++ join sep rest

@[ext] theorem ext {a b : Runes} (h : a.list = b.list) : a = b := by
  cases a
  cases b
  exact congrArg _ h

theorem isEmpty_iff {r : Runes} : r.isEmpty = true ↔ r = "" := by
  rw [isEmpty, List.isEmpty_iff]
  exact ⟨fun h => ext h, fun h => h ▸ rfl⟩

@[simp] theorem list_append (a b : Runes) : (a ++ b).list = a.list ++ b.list := rfl

@[simp] theorem list_ofString (s : String) : (ofString s).list = s.toList.map .char := rfl

@[simp] theorem toString?_ofString (s : String) : (ofString s).toString? = some s := by
  simp [toString?, Rune.leading_chars]

theorem toString?_eq_some {r : Runes} {s : String} : r.toString? = some s ↔ r = ofString s := by
  refine ⟨fun h => ?_, fun h => h ▸ toString?_ofString s⟩
  have hlist := Rune.leading_append r.list
  unfold toString? at h
  split at h
  next cs heq =>
    rw [heq, List.append_nil] at hlist
    rw [← Option.some.inj h]
    exact ext (by simp [← hlist])
  next => cases h

@[simp] theorem ofString_inj {s t : String} : ofString s = ofString t ↔ s = t := by
  refine ⟨fun h => ?_, congrArg _⟩
  exact Option.some.inj ((toString?_ofString s).symm.trans (h ▸ toString?_ofString t))

@[simp] theorem ofString_beq (s t : String) : (ofString s == ofString t) = (s == t) := by
  rw [Bool.eq_iff_iff, beq_iff_eq, beq_iff_eq, ofString_inj]

@[simp] theorem isWhole_ofString (s : String) : (ofString s).isWhole = true := by
  simp [isWhole, Rune.isChar]

@[simp] theorem lossy_ofString (s : String) : (ofString s).lossy = s := by
  simp [lossy, List.flatMap_map]

@[simp] theorem shown_ofString (s : String) : (ofString s).shown = s := by
  simp [shown, Rune.shown, Function.comp_def]

/-- A text without halves is that of a string. -/
theorem isWhole_iff {r : Runes} : r.isWhole = true ↔ ∃ s, r = ofString s := by
  refine ⟨fun h => ?_, fun ⟨s, hs⟩ => hs ▸ isWhole_ofString s⟩
  have hchars : ∀ rs : List Rune, rs.all Rune.isChar = true →
      ∃ cs : List Char, rs = cs.map .char := by
    intro rs
    induction rs with
    | nil => exact fun _ => ⟨[], rfl⟩
    | cons r rest ih =>
      intro hall
      rw [List.all_cons, Bool.and_eq_true] at hall
      obtain ⟨cs, rfl⟩ := ih hall.2
      cases r with
      | char c => exact ⟨c :: cs, rfl⟩
      | half n => cases hall.1
  obtain ⟨cs, hcs⟩ := hchars r.list h
  exact ⟨String.ofList cs, ext (by simp [hcs])⟩

end Runes

end DesignBridge
