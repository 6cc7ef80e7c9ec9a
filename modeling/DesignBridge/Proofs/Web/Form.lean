import DesignBridge.Proofs.Text.Pieces
import DesignBridge.Proofs.Web.Percent
import DesignBridge.Web.Form

/-! # Forms read back

The names and values of a query are read as they were written, whatever characters they hold: what
parts them stands nowhere inside a name or a value.
-/

namespace DesignBridge.Form

open Text

/-- The characters of names and values that are written without escapes. -/
def isKept (c : Char) : Bool :=
  c == ' ' || Percent.isUnreserved c

theorem isKept_isPlain : Percent.IsPlain isKept := by
  refine .of_digits (fun c hc => ?_) (by decide)
  obtain hc | hc := Bool.or_eq_true_iff.mp hc
  · obtain rfl := beq_iff_eq.mp hc
    decide
  · exact Percent.lt_of_isUnreserved hc

/-- Whatever is written for a character is a plus sign, stands for itself or belongs to an
escape. -/
theorem mem_encodeChar {c d : Char} (h : c ∈ encodeChar d) :
    c = '+' ∨ Percent.isUnreserved c = true ∨ c = '%' ∨ (hexValue? c).isSome = true := by
  unfold encodeChar at h
  split at h
  next => exact .inl (List.mem_singleton.mp h)
  next =>
    split at h
    next hd => exact .inr (.inl (List.mem_singleton.mp h ▸ hd))
    next => exact .inr (.inr (Percent.mem_escapeChar h))

/-- Nothing that is written for a character parts names and values. -/
theorem not_mem_encodeText {c : Char} (hplus : c ≠ '+') (hpercent : c ≠ '%')
    (hreserved : Percent.isUnreserved c = false) (hdigit : hexValue? c = none) (s : String) :
    c ∉ encodeText s := by
  intro h
  obtain ⟨d, _, hc⟩ := List.mem_flatMap.mp h
  obtain hc | hc | hc | hc := mem_encodeChar hc
  · exact hplus hc
  · rw [hreserved] at hc
    cases hc
  · exact hpercent hc
  · rw [hdigit] at hc
    cases hc

theorem amp_not_mem_encodeText (s : String) : '&' ∉ encodeText s :=
  not_mem_encodeText (by decide) (by decide) (by decide) rfl s

theorem equals_not_mem_encodeText (s : String) : '=' ∉ encodeText s :=
  not_mem_encodeText (by decide) (by decide) (by decide) rfl s

/-- The plus sign for a blank. -/
def blankOfPlus (c : Char) : Char :=
  if c = '+' then ' ' else c

theorem map_encodeChar (c : Char) :
    (encodeChar c).map blankOfPlus = if isKept c then [c] else Percent.escapeChar c := by
  unfold encodeChar isKept
  by_cases hblank : c = ' '
  · subst hblank
    rfl
  · by_cases hkept : Percent.isUnreserved c = true
    · have hplus : c ≠ '+' := by
        rintro rfl
        cases hkept
      simp [hblank, hkept, blankOfPlus, hplus]
    · have hescape : ∀ d ∈ Percent.escapeChar c, blankOfPlus d = d := by
        intro d hd
        refine if_neg ?_
        rintro rfl
        obtain hd | hd := Percent.mem_escapeChar hd <;> cases hd
      simp only [hkept, hblank, beq_iff_eq, Bool.or_eq_true, or_self, Bool.false_eq_true, if_false]
      exact (List.map_congr_left hescape).trans (List.map_id _)

/-- Apart from blanks, forms are written like other text with escapes. -/
theorem map_encodeText (s : String) :
    (encodeText s).map blankOfPlus = Percent.encode isKept s.toList := by
  unfold encodeText Percent.encode
  rw [List.map_flatMap]
  exact congrArg (List.flatMap · s.toList) (funext map_encodeChar)

/-- A name or a value is read as it was written. -/
theorem decodeText_encodeText (s : String) : decodeText (encodeText s) = s := by
  have hread : Percent.decode (Percent.encode isKept s.toList) = s.toList :=
    isKept_isPlain.decode_encode fun h => absurd h (by decide)
  have hmarks : decodeText (encodeText s) =
      String.ofList (Percent.decode ((encodeText s).map blankOfPlus)) := rfl
  rw [hmarks, map_encodeText, hread, String.ofList_toList]

theorem decodePair_encodePair (pair : String × String) : decodePair (encodePair pair) = pair := by
  have hkeep : ∀ c ∈ encodeText pair.1, decide (c ≠ '=') = true := fun c hc =>
    decide_eq_true fun heq => equals_not_mem_encodeText pair.1 (heq ▸ hc)
  unfold decodePair encodePair
  rw [List.takeWhile_append_of_pos hkeep, List.dropWhile_append_of_pos hkeep]
  simp [decodeText_encodeText]

theorem interleave_eq (sep : Char) (pieces : List (List Char)) :
    interleave sep pieces = [sep].intercalate pieces := by
  induction pieces with
  | nil => rfl
  | cons piece rest ih =>
      cases rest with
      | nil => rw [interleave, List.intercalate_singleton]
      | cons next rest =>
          rw [interleave, ih, List.intercalate_cons_cons, List.append_assoc, List.singleton_append]
          exact List.cons_ne_nil _ _

/-- The names and values of a query are read as they were written, in their order. -/
theorem decode_encode (pairs : Entries String String) : decode (encode pairs) = pairs := by
  cases pairs with
  | nil => rfl
  | cons first rest =>
      have hparted : ∀ piece ∈ (first :: rest).map encodePair, '&' ∉ piece := by
        intro piece hmem
        obtain ⟨pair, _, rfl⟩ := List.mem_map.mp hmem
        unfold encodePair
        simp [amp_not_mem_encodeText]
      have hfilled : ((first :: rest).map encodePair).filter (!·.isEmpty) =
          (first :: rest).map encodePair := by
        refine List.filter_eq_self.mpr fun piece hmem => ?_
        obtain ⟨pair, _, rfl⟩ := List.mem_map.mp hmem
        simp [encodePair]
      unfold decode encode
      rw [String.toList_ofList, interleave_eq, splitAt_intercalate hparted (by simp), hfilled,
        List.map_map]
      exact (List.map_congr_left fun pair _ => decodePair_encodePair pair).trans (List.map_id _)

end DesignBridge.Form
