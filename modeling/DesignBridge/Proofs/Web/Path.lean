import DesignBridge.Proofs.Text.Pieces
import DesignBridge.Proofs.Web.Url

/-! # Paths and their segments

A path without dot segments is in normal form. Of a normal path that goes on with a text, the
segments are a part of its own from the front, and then segments of that text: dots drop segments,
and never make new ones.
-/

namespace DesignBridge.UrlParts

open Text

/-- Whether a segment names no place of its own: the one that is there already, or the one above. -/
def IsDots (segment : List Char) : Prop :=
  segment = ['.'] ∨ segment = ['.', '.']

instance (segment : List Char) : Decidable (IsDots segment) :=
  inferInstanceAs (Decidable (_ ∨ _))

/-- What one more segment does to those that are kept. -/
def keepSegment (kept : List (List Char)) (segment : List Char) : List (List Char) :=
  if segment = ['.'] then kept
  else if segment = ['.', '.'] then if kept = [[]] then kept else kept.dropLast
  else kept ++ [segment]

variable {kept segments : List (List Char)} {segment path : List Char}

theorem keepSegment_of_not_isDots (h : ¬ IsDots segment) :
    keepSegment kept segment = kept ++ [segment] := by
  unfold keepSegment
  rw [if_neg fun hdot => h (.inl hdot), if_neg fun hdots => h (.inr hdots)]

theorem foldl_keepSegment_of_not_isDots (h : ∀ segment ∈ segments, ¬ IsDots segment) :
    segments.foldl keepSegment kept = kept ++ segments := by
  induction segments generalizing kept with
  | nil => exact (List.append_nil kept).symm
  | cons first rest ih =>
      rw [List.foldl_cons, keepSegment_of_not_isDots (h first List.mem_cons_self),
        ih fun other hother => h other (List.mem_cons_of_mem _ hother), List.append_assoc,
        List.singleton_append]

/-- A segment drops some that are kept from the back, or joins them. -/
theorem exists_keepSegment (kept : List (List Char)) (segment : List Char) :
    ∃ n more, keepSegment kept segment = kept.take n ++ more ∧
      ∀ other ∈ more, other = segment ∧ ¬ IsDots other := by
  by_cases hdots : IsDots segment
  · refine ⟨(keepSegment kept segment).length, [], ?_, by simp⟩
    rw [List.append_nil]
    obtain rfl | rfl := hdots
    · exact (List.take_length).symm
    · show (if kept = [[]] then kept else kept.dropLast) =
        kept.take (if kept = [[]] then kept else kept.dropLast).length
      split
      next => exact List.take_length.symm
      next => rw [List.length_dropLast, List.dropLast_eq_take]
  · refine ⟨kept.length, [segment], ?_, by simpa using hdots⟩
    rw [keepSegment_of_not_isDots hdots, List.take_length]

/-- However many segments follow, what is kept is a front part of what was, and then some of these
segments. -/
theorem exists_foldl_keepSegment (kept segments : List (List Char)) :
    ∃ n more, segments.foldl keepSegment kept = kept.take n ++ more ∧
      ∀ segment ∈ more, segment ∈ segments ∧ ¬ IsDots segment := by
  induction segments generalizing kept with
  | nil => exact ⟨kept.length, [], by simp, by simp⟩
  | cons first rest ih =>
      obtain ⟨n, joined, hfirst, hjoined⟩ := exists_keepSegment kept first
      obtain ⟨m, more, hrest, hmore⟩ := ih (keepSegment kept first)
      refine ⟨min m n, joined.take (m - (kept.take n).length) ++ more, ?_, fun segment hmem => ?_⟩
      · rw [List.foldl_cons, hrest, hfirst, List.take_append, List.take_take, List.append_assoc]
      · obtain hmem | hmem := List.mem_append.mp hmem
        · obtain ⟨rfl, hnot⟩ := hjoined segment (List.mem_of_mem_take hmem)
          exact ⟨List.mem_cons_self, hnot⟩
        · obtain ⟨hin, hnot⟩ := hmore segment hmem
          exact ⟨List.mem_cons_of_mem _ hin, hnot⟩

/-- A path keeps the segments that the dots among them leave. -/
theorem normalPath_eq (path : List Char) : normalPath path =
    ['/'].intercalate ((splitAt '/' path).foldl keepSegment []) := rfl

/-- A path without dot segments stays as it is. -/
theorem normalPath_of_not_isDots (h : ∀ segment ∈ splitAt '/' path, ¬ IsDots segment) :
    normalPath path = path := by
  rw [normalPath_eq, foldl_keepSegment_of_not_isDots h, List.nil_append, splitAt_eq_splitOn,
    List.intercalate_splitOn]

theorem splitAt_normalPath (h : normalPath path ≠ []) :
    splitAt '/' (normalPath path) = (splitAt '/' path).foldl keepSegment [] := by
  obtain ⟨n, more, hkept, hmore⟩ := exists_foldl_keepSegment [] (splitAt '/' path)
  rw [normalPath_eq] at h ⊢
  refine splitAt_intercalate (fun segment hsegment => ?_) fun hnil => h (by rw [hnil]; rfl)
  rw [hkept, List.take_nil, List.nil_append] at hsegment
  exact not_mem_of_mem_splitAt (hmore segment hsegment).1

/-- No segment of a path in normal form is of dots. -/
theorem not_isDots_of_mem_normalPath (h : segment ∈ splitAt '/' (normalPath path)) :
    ¬ IsDots segment := by
  by_cases hnil : normalPath path = []
  · rw [hnil] at h
    obtain rfl := List.mem_singleton.mp h
    decide
  · obtain ⟨n, more, hkept, hmore⟩ := exists_foldl_keepSegment [] (splitAt '/' path)
    rw [splitAt_normalPath hnil, hkept, List.take_nil, List.nil_append] at h
    exact (hmore segment h).2

/-! ## Escapes -/

theorem splitAt_encode (cs : List Char) : splitAt '/' (Percent.encode isPathChar cs) =
    (splitAt '/' cs).map (Percent.encode isPathChar) := by
  refine splitAt_flatMap (by decide) (fun c hc hmem => ?_) cs
  split at hmem
  next => exact hc (List.mem_singleton.mp hmem).symm
  next => obtain h | h := Percent.mem_escapeChar hmem <;> cases h

/-- Dots are never escaped. -/
theorem isDots_encode : IsDots (Percent.encode isPathChar segment) ↔ IsDots segment := by
  constructor
  · intro h
    have hpercent : '%' ∉ Percent.encode isPathChar segment := by
      obtain h | h := h <;> rw [h] <;> decide
    rwa [Percent.encode_of_percent_not_mem hpercent] at h
  · rintro (rfl | rfl)
    · exact .inl (by decide)
    · exact .inr (by decide)

/-! ## Paths that go on -/

/-- Whether a path is in the form in which addresses have it: escaped, and without dot segments
where the address has a place. -/
structure IsSettled (placed : Bool) (path : List Char) : Prop where
  escaped : ∀ c ∈ path, isPathChar c = true
  plain : placed = true → ∀ segment ∈ splitAt '/' path, ¬ IsDots segment

theorem isSettled_encode (placed : Bool) (path : List Char) :
    IsSettled placed (Percent.encode isPathChar (placedPath placed path)) := by
  refine ⟨fun c hc => isPathChar_isPlain.safe_of_mem_encode (by decide) hc,
    fun hplaced segment hsegment => ?_⟩
  rw [splitAt_encode] at hsegment
  obtain ⟨plain, hplain, rfl⟩ := List.mem_map.mp hsegment
  rw [placedPath, if_pos hplaced] at hplain
  exact fun hdots => not_isDots_of_mem_normalPath hplain (isDots_encode.mp hdots)

section

variable {placed : Bool} {front rest first last : List Char}

theorem IsSettled.of_append (h : IsSettled placed (front ++ '/' :: rest)) :
    IsSettled placed front := by
  refine ⟨fun c hc => h.escaped c (List.mem_append_left _ hc),
    fun hplaced segment hsegment => h.plain hplaced segment ?_⟩
  rw [splitAt_append_cons]
  exact List.mem_append_left _ hsegment

/-- A path that goes on without dots is written behind what is there already. -/
theorem IsSettled.append (h : IsSettled placed front)
    (hrest : ∀ segment ∈ splitAt '/' rest, ¬ IsDots segment) :
    Percent.encode isPathChar (placedPath placed (front ++ '/' :: rest)) =
      front ++ '/' :: Percent.encode isPathChar rest := by
  have hplaced : placedPath placed (front ++ '/' :: rest) = front ++ '/' :: rest := by
    unfold placedPath
    split
    next hplaced =>
      refine normalPath_of_not_isDots fun segment hsegment => ?_
      rw [splitAt_append_cons] at hsegment
      exact (List.mem_append.mp hsegment).elim (h.plain hplaced segment) (hrest segment)
    next => rfl
  rw [hplaced, Percent.encode_append, Percent.encode_of_safe h.escaped, Percent.encode_cons,
    if_pos (by decide)]
  rfl

/-- If a path goes on with a first segment and a text, and in the end has one segment behind the
first, then that is a segment of the text. -/
theorem IsSettled.exists_segment (h : IsSettled placed front) (hfirst : '/' ∉ first)
    (hplain : ¬ IsDots first) (hsegment : '/' ∉ segment) (hlast : '/' ∉ last)
    (hpath : Percent.encode isPathChar (placedPath placed
      (front ++ '/' :: (first ++ '/' :: Percent.encode isPathChar rest))) =
        front ++ '/' :: (first ++ '/' :: (segment ++ '/' :: last))) :
    ∃ piece ∈ splitAt '/' rest, segment = Percent.encode isPathChar piece := by
  have hsplit : ∀ cs, splitAt '/' (front ++ '/' :: (first ++ '/' :: cs)) =
      (splitAt '/' front ++ [first]) ++ splitAt '/' cs := by
    intro cs
    rw [splitAt_append_cons, splitAt_append_cons, splitAt_of_not_mem hfirst, List.append_assoc]
  have hsegments : splitAt '/' (segment ++ '/' :: last) = [segment, last] := by
    rw [splitAt_append_cons, splitAt_of_not_mem hsegment, splitAt_of_not_mem hlast]
    rfl
  -- The segments behind the first are such of the text, whatever dots it holds.
  obtain ⟨n, more, hkept, hmore⟩ : ∃ n more,
      splitAt '/' (placedPath placed (front ++ '/' :: (first ++ '/' ::
        Percent.encode isPathChar rest))) = (splitAt '/' front ++ [first]).take n ++ more ∧
        ∀ segment ∈ more, segment ∈ splitAt '/' (Percent.encode isPathChar rest) := by
    unfold placedPath
    split
    next hplaced =>
      have hne : normalPath (front ++ '/' :: (first ++ '/' :: Percent.encode isPathChar rest)) ≠
          [] := by
        intro hnil
        rw [placedPath, if_pos hplaced, hnil] at hpath
        simp [Percent.encode] at hpath
      have hkeep : ∀ segment ∈ splitAt '/' front ++ [first], ¬ IsDots segment := by
        simpa [or_imp, forall_and] using ⟨h.plain hplaced, hplain⟩
      rw [splitAt_normalPath hne, hsplit, List.foldl_append,
        foldl_keepSegment_of_not_isDots hkeep, List.nil_append]
      obtain ⟨n, more, hkept, hmore⟩ := exists_foldl_keepSegment (splitAt '/' front ++ [first])
        (splitAt '/' (Percent.encode isPathChar rest))
      exact ⟨n, more, hkept, fun segment hmem => (hmore segment hmem).1⟩
    next => exact ⟨_, _, (hsplit _).trans (by rw [List.take_length]), fun _ hmem => hmem⟩
  have hparts := congrArg (splitAt '/') hpath
  rw [splitAt_encode, hkept, hsplit, hsegments, List.map_append] at hparts
  have hbehind := congrArg (List.drop (splitAt '/' front ++ [first]).length) hparts
  have hfront : ((splitAt '/' front ++ [first]).take n |>.map
      (Percent.encode isPathChar)).length ≤ (splitAt '/' front ++ [first]).length := by
    rw [List.length_map]
    exact List.length_take_le' n _
  rw [List.drop_left, List.drop_append, List.drop_eq_nil_of_le hfront, List.nil_append] at hbehind
  have hmem : segment ∈ more.map (Percent.encode isPathChar) :=
    List.mem_of_mem_drop (hbehind ▸ List.mem_cons_self)
  obtain ⟨escaped, hin, hencode⟩ := List.mem_map.mp hmem
  have hin := hmore escaped hin
  rw [splitAt_encode] at hin
  obtain ⟨piece, hpiece, rfl⟩ := List.mem_map.mp hin
  exact ⟨piece, hpiece, by rw [← hencode, isPathChar_isPlain.encode_encode (by decide)]⟩

end

end DesignBridge.UrlParts
