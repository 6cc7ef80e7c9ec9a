import DesignBridge.Json.Encoded
import DesignBridge.Json.Writer
import DesignBridge.Proofs.Json.Lasting
import DesignBridge.Proofs.Web.Utf8

/-! # Values as the bodies of messages

A value can be the body of a message just if all its numbers are finite and no text in it has halves
of surrogate pairs: its compact text has no other halves, and those are what UTF-8 cannot write. In
the other direction, a body in UTF-8 is read as the text that its bytes stand for.
-/

namespace DesignBridge

/-! ## Halves in what is written -/

/-- A text without a first half has none. -/
theorem Rune.leading_back (rs : List Rune) :
    (leading rs).2 = [] ∨ ∃ n back, (leading rs).2 = half n :: back := by
  fun_induction leading rs with
  | case1 c rest front back heq ih => rwa [heq] at ih
  | case2 rest hrest =>
      cases rest with
      | nil => exact .inl rfl
      | cons r back =>
          cases r with
          | char c => exact (hrest c back rfl).elim
          | half n => exact .inr ⟨n, back, rfl⟩

theorem Utf8.encodeFault?_eq_none_iff {r : Runes} :
    encodeFault? r = none ↔ r.isWhole = true := by
  have hlist := Rune.leading_append r.list
  have hback := Rune.leading_back r.list
  unfold encodeFault? Runes.isWhole
  cases hleading : Rune.leading r.list with
  | mk front back =>
      rw [hleading] at hlist hback
      rcases hback with rfl | ⟨n, more, rfl⟩
      · exact iff_of_true rfl (by simp [← hlist, Rune.isChar])
      · exact iff_of_false (Option.some_ne_none _) (by simp [← hlist, Rune.isChar])

namespace Runes

@[simp] theorem isWhole_append (a b : Runes) : (a ++ b).isWhole = (a.isWhole && b.isWhole) :=
  List.all_append

theorem isWhole_join {sep : Runes} (hsep : sep.isWhole = true) (pieces : List Runes) :
    (join sep pieces).isWhole = pieces.all isWhole := by
  fun_induction join sep pieces with
  | case1 => rfl
  | case2 piece => simp
  | case3 piece rest hrest ih => simp [ih, hsep]

end Runes

namespace Json

theorem isWhole_compactText (s : Runes) : (compactText s).isWhole = s.isWhole := by
  have hrune : ∀ r : Rune, (compactRune r).all Rune.isChar = r.isChar := by
    intro r
    cases r with
    | char c =>
        rw [compactRune]
        split <;> simp [Rune.isChar]
    | half n => rfl
  have hplaces : (s.list.flatMap compactRune).all Rune.isChar = s.list.all Rune.isChar := by
    rw [List.all_flatMap]
    exact congrArg s.list.all (funext hrune)
  simp [compactText, Runes.isWhole, Rune.isChar, hplaces]

mutual

/-- The text of a value has the halves that the texts in it have. -/
theorem isWhole_compact : (v : Json) → v.compact.isWhole = v.isWhole
  | .null | .bool _ | .number _ => Runes.isWhole_ofString _
  | .text s => isWhole_compactText s
  | .list items => by
      rw [compact, isWhole, ← all_isWhole_compactItems items]
      simp [Runes.isWhole_join]
  | .object members => by
      rw [compact, isWhole, ← all_isWhole_compactMembers members]
      simp [Runes.isWhole_join]

theorem all_isWhole_compactItems : (items : List Json) →
    (compactItems items).all Runes.isWhole = isWholeItems items
  | [] => rfl
  | x :: xs => by
      rw [compactItems, List.all_cons, isWhole_compact x, all_isWhole_compactItems xs, isWholeItems]

theorem all_isWhole_compactMembers : (members : Members) →
    (compactMembers members).all Runes.isWhole = isWholeMembers members
  | [] => rfl
  | (name, x) :: rest => by
      rw [compactMembers, List.all_cons, all_isWhole_compactMembers rest, isWholeMembers]
      simp [isWhole_compact x, isWhole_compactText]

end

/-- So nothing keeps a value from being the body of a message if it has neither halves nor numbers
that are not finite. -/
theorem encodingFault?_eq_none_iff {v : Json} :
    v.encodingFault? = none ↔ v.isEncodable = true := by
  unfold encodingFault? isEncodable
  split
  next hfinite => simp [hfinite, Utf8.encodeFault?_eq_none_iff, isWhole_compact]
  next hnot => simp [hnot]

theorem isWholeItems_eq_all (items : List Json) : isWholeItems items = items.all isWhole := by
  induction items with
  | nil => rfl
  | cons x xs ih => rw [isWholeItems, ih, List.all_cons]

theorem allFiniteItems_eq_all (items : List Json) : allFiniteItems items = items.all allFinite := by
  induction items with
  | nil => rfl
  | cons x xs ih => rw [allFiniteItems, ih, List.all_cons]

@[simp] theorem isEncodable_text (s : Runes) : (text s).isEncodable = s.isWhole :=
  Bool.true_and _

@[simp] theorem isEncodable_bool (b : Bool) : (bool b).isEncodable = true := rfl

theorem isEncodable_list (items : List Json) :
    (list items).isEncodable = items.all isEncodable := by
  rw [isEncodable, allFinite, isWhole, allFiniteItems_eq_all, isWholeItems_eq_all]
  induction items with
  | nil => rfl
  | cons x xs ih =>
      rw [List.all_cons, List.all_cons, List.all_cons, ← ih, isEncodable]
      ac_rfl

theorem isEncodable_object (members : Members) : (object members).isEncodable =
    members.all fun member => member.1.isWhole && member.2.isEncodable := by
  induction members with
  | nil => rfl
  | cons member rest ih =>
      rw [List.all_cons, ← ih]
      simp only [isEncodable, allFinite, allFiniteMembers, isWhole, isWholeMembers]
      ac_rfl

/-! ## Bodies that are read -/

/-- A body that is JSON has a text that is read as it. -/
theorem exists_text_of_readBody? {bytes : List UInt8} {v : Json} (h : readBody? bytes = .ok v) :
    ∃ rs, readRunes? rs = .ok v := by
  unfold readBody? at h
  split at h
  next rs _ =>
    cases hread : readRunes? rs with
    | error e =>
        rw [hread] at h
        cases h
    | ok w =>
        rw [hread] at h
        exact ⟨rs, Except.ok.inj h ▸ hread⟩
  next => cases h

theorem readBody?_nil : readBody? [] = .error (.json (.fault .value 1 1 0)) := rfl

/-- The text of a value as the bytes of a message. -/
def bytes (v : Json) : List UInt8 :=
  Utf8.encode v.write.toList

/-- A value that lasts is read back from these, where they are taken for UTF-8. -/
theorem Lasts.readBody?_bytes {v : Json} (hlasts : v.Lasts)
    (hutf8 : Encoding.detect v.bytes = (.utf8, v.bytes)) : readBody? v.bytes = .ok v := by
  have htext : bodyText? v.bytes = some (v.write.toList.map .char) := by
    unfold bodyText?
    rw [hutf8]
    exact Utf8.decodeRunes?_encode _
  unfold readBody?
  rw [htext]
  dsimp only
  rw [readRunes?_write, lasts_iff.mp hlasts]
  rfl

end Json

end DesignBridge
