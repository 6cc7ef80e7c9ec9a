import DesignBridge.Proofs.Web.Percent
import DesignBridge.Web.Url

/-! # What addresses are put together from

An address is put together from the parts that it is cut into. Of another address it shares the
scheme, the user, the host and the port if these are cut from the same; its query and its fragment
have no part in them.
-/

namespace DesignBridge

/-! ## Steps that succeed -/

/-- Where two steps succeed the first one does, and the second one with what it gives. -/
theorem exists_of_bind_eq_ok {ε α β : Type} {x : Except ε α} {f : α → Except ε β} {b : β}
    (h : x >>= f = .ok b) : ∃ a, x = .ok a ∧ f a = .ok b := by
  cases x with
  | error e => cases h
  | ok a => exact ⟨a, rfl, h⟩

theorem mapError_eq_ok_iff {ε η α : Type} {f : ε → η} {x : Except ε α} {a : α} :
    x.mapError f = .ok a ↔ x = .ok a := by
  cases x with
  | error e => constructor <;> rintro ⟨⟩
  | ok b => constructor <;> rintro ⟨⟩ <;> rfl

/-! ## Parts -/

namespace Url

/-- Whether an address names a user, a host or a port. -/
def hasAuthority (u : Url) : Bool :=
  u.user != "" || u.host != "" || u.port.isSome

/-- Whether an address has a scheme or an authority. Only then its path has no dot segments. -/
def hasPlace (u : Url) : Bool :=
  u.scheme != "" || u.hasAuthority

end Url

namespace UrlParts

open Text

theorem isQueryChar_isPlain : Percent.IsPlain isQueryChar := by
  refine .of_digits (fun c hc => ?_) (by decide)
  simp only [isQueryChar, Bool.and_eq_true, decide_eq_true_eq] at hc
  exact Nat.lt_of_le_of_lt hc.1.1.1.1.2 (by decide)

theorem isPathChar_isPlain : Percent.IsPlain isPathChar := by
  refine .of_digits (fun c hc => ?_) (by decide)
  simp only [isPathChar, Bool.and_eq_true] at hc
  exact isQueryChar_isPlain.ascii c hc.1.1.1.1

/-- The path of an address, which loses its dot segments where the address has a place. -/
def placedPath (placed : Bool) (path : List Char) : List Char :=
  if placed then normalPath path else path

/-- Whether an address is put together from parts. -/
structure Makes (parts : UrlParts) (u : Url) : Prop where
  scheme : u.scheme = lowerAscii (String.ofList parts.scheme)
  user : u.user = String.ofList (Percent.encode isUserChar (cutUser parts.authority).1)
  host : Host.encode (String.ofList (cutHost (cutUser parts.authority).2).1) = .ok u.host
  port : readPort parts.scheme (portText (cutHost (cutUser parts.authority).2).2) = .ok u.port
  fits : checkPath parts.path (u.scheme != "") u.hasAuthority = .ok ()
  path : u.path = String.ofList (Percent.encode isPathChar (placedPath u.hasPlace parts.path))
  query : u.query = parts.query.map fun cs => String.ofList (Percent.encode isQueryChar cs)
  fragment : u.fragment = parts.fragment.map fun cs =>
    String.ofList (Percent.encode isFragmentChar cs)

theorem isEmpty_eq (cs : List Char) : (!cs.isEmpty) = (String.ofList cs != "") := by
  cases cs with
  | nil => rfl
  | cons c rest =>
      have hne : String.ofList (c :: rest) ≠ "" := by simp
      exact (bne_iff_ne.mpr hne).symm

theorem toUrl_eq_ok_iff {parts : UrlParts} {u : Url} : parts.toUrl = .ok u ↔ Makes parts u := by
  constructor
  · intro h
    unfold toUrl at h
    obtain ⟨host, hhost, h⟩ := exists_of_bind_eq_ok h
    obtain ⟨port, hport, h⟩ := exists_of_bind_eq_ok h
    obtain ⟨_, hfits, h⟩ := exists_of_bind_eq_ok h
    obtain rfl := Except.ok.inj h
    rw [isEmpty_eq] at hfits
    refine ⟨rfl, rfl, mapError_eq_ok_iff.mp hhost, hport, hfits, ?_, rfl, rfl⟩
    simp only [isEmpty_eq]
    rfl
  · rintro ⟨hscheme, huser, hhost, hport, hfits, hpath, hquery, hfragment⟩
    obtain ⟨scheme, user, host, port, path, query, fragment⟩ := u
    simp only [Url.hasPlace, Url.hasAuthority] at *
    subst hscheme huser hpath hquery hfragment
    have hnamed := (mapError_eq_ok_iff (f := UrlFault.host)).mpr hhost
    unfold toUrl
    simp only [hnamed, hport, bind, Except.bind, isEmpty_eq, hfits]
    rfl

/-- A query has no part in the rest of an address. -/
theorem toUrl_withQuery (parts : UrlParts) (query : Option (List Char)) :
    { parts with query }.toUrl = parts.toUrl.map fun u =>
      { u with query := query.map fun cs => String.ofList (Percent.encode isQueryChar cs) } := by
  unfold toUrl
  dsimp only
  cases Host.encode (String.ofList (cutHost (cutUser parts.authority).2).1) with
  | error e => rfl
  | ok host =>
      cases readPort parts.scheme (portText (cutHost (cutUser parts.authority).2).2) with
      | error e => rfl
      | ok port =>
          have hnamed : (Except.ok host).mapError UrlFault.host = .ok host := rfl
          simp only [hnamed, bind, Except.bind]
          split <;> rfl

/-! ## Schemes -/

/-- Whether all characters of a scheme can stand in one. -/
def IsScheme (s : String) : Prop :=
  ∀ c ∈ s.toList, isSchemeChar c = true

theorem isScheme_cut (cs : List Char) : IsScheme (String.ofList (cut cs).scheme) := by
  have hcut : ∀ rest, ∀ c ∈ (cutScheme rest).1, isSchemeChar c = true := by
    intro rest c hc
    unfold cutScheme at hc
    split at hc
    next => cases hc
    next =>
      split at hc
      next =>
        split at hc
        next => exact List.all_eq_true.mp List.all_takeWhile c hc
        next => cases hc
      next => cases hc
  intro c hc
  rw [String.toList_ofList] at hc
  exact hcut _ c hc

theorem isSchemeChar_lower {c : Char} (h : isSchemeChar c = true) :
    isSchemeChar (if 'A' ≤ c ∧ c ≤ 'Z' then Char.ofNat (c.toNat + 32) else c) = true := by
  split
  next hupper =>
    have hcheck : ∀ n < 0x80, 'A'.toNat ≤ n → n ≤ 'Z'.toNat →
        isSchemeChar (Char.ofNat (n + 32)) = true := by decide +kernel
    exact hcheck c.toNat (Nat.lt_of_le_of_lt hupper.2 (by decide)) hupper.1 hupper.2
  next => exact h

theorem IsScheme.lowerAscii {s : String} (h : IsScheme s) : IsScheme (lowerAscii s) := by
  intro c hc
  rw [Text.lowerAscii, String.toList_ofList] at hc
  obtain ⟨d, hd, rfl⟩ := List.mem_map.mp hc
  exact isSchemeChar_lower (h d hd)

/-- An address of its parts has a scheme that can stand in one. -/
theorem Makes.isScheme {parts : UrlParts} {u : Url} (h : Makes parts u)
    (hparts : IsScheme (String.ofList parts.scheme)) : IsScheme u.scheme :=
  h.scheme ▸ hparts.lowerAscii

/-! ## Cuts -/

section

variable {mark : Char} {cs front : List Char}

theorem decide_ne_of_not_mem (h : mark ∉ front) : ∀ c ∈ front, decide (c ≠ mark) = true :=
  fun _ hc => decide_eq_true fun heq => h (heq ▸ hc)

theorem cutAt_of_not_mem (h : mark ∉ cs) : cutAt mark cs = (cs, none) := by
  have hnone := @List.dropWhile_append_of_pos _ _ cs [] (decide_ne_of_not_mem h)
  rw [List.append_nil, List.dropWhile_nil] at hnone
  unfold cutAt
  rw [hnone]

theorem cutAt_append_cons (h : mark ∉ front) (back : List Char) :
    cutAt mark (front ++ mark :: back) = (front, some back) := by
  have hall := decide_ne_of_not_mem h
  have hmark : decide (mark ≠ mark) = false := decide_eq_false (not_not_intro rfl)
  unfold cutAt
  rw [List.dropWhile_append_of_pos hall, List.takeWhile_append_of_pos hall,
    List.dropWhile_cons_of_neg (by rw [hmark]; decide),
    List.takeWhile_cons_of_neg (by rw [hmark]; decide), List.append_nil]

/-- What stands before the first mark stays. -/
theorem cutAt_append (h : mark ∉ front) (cs : List Char) :
    cutAt mark (front ++ cs) = (front ++ (cutAt mark cs).1, (cutAt mark cs).2) := by
  by_cases hmem : mark ∈ cs
  · obtain ⟨before, back, rfl, hbefore⟩ := List.eq_append_cons_of_mem hmem
    rw [← List.append_assoc, cutAt_append_cons (by simp [h, hbefore]), cutAt_append_cons hbefore]
  · rw [cutAt_of_not_mem (by simp [h, hmem]), cutAt_of_not_mem hmem]

theorem cutAt_snd_eq_none_iff : (cutAt mark cs).2 = none ↔ mark ∉ cs := by
  by_cases hmem : mark ∈ cs
  · obtain ⟨before, back, rfl, hbefore⟩ := List.eq_append_cons_of_mem hmem
    rw [cutAt_append_cons hbefore]
    exact iff_of_false (Option.some_ne_none back) (not_not_intro hmem)
  · rw [cutAt_of_not_mem hmem]
    exact iff_of_true rfl hmem

/-- What stands behind the first question mark, and before any hash, is the query. -/
theorem cut_query {query : List Char} (hask : '?' ∉ front) (hhash : '#' ∉ front)
    (hquery : '#' ∉ query) : (cut (front ++ '?' :: query)).query = some query := by
  have hall : '#' ∉ front ++ '?' :: query := by simp [hhash, hquery]
  unfold cut
  rw [cutAt_of_not_mem hall]
  dsimp only
  rw [cutAt_append_cons hask]

end

/-- A text that begins with one slash, and goes on with a character that marks nothing, is a path up
to the first mark behind it. -/
theorem cut_of_slash {c : Char} (hslash : c ≠ '/') (hask : c ≠ '?') (hhash : c ≠ '#')
    (cs : List Char) :
    cut ('/' :: c :: cs) = ⟨[], [], '/' :: c :: (cutAt '?' (cutAt '#' cs).1).1,
      (cutAt '?' (cutAt '#' cs).1).2, (cutAt '#' cs).2⟩ := by
  have hfront : ∀ mark, mark ≠ '/' → mark ≠ c → ∀ rest, cutAt mark ('/' :: c :: rest) =
      ('/' :: c :: (cutAt mark rest).1, (cutAt mark rest).2) := by
    intro mark hmark hc rest
    have hnot : mark ∉ ['/', c] := by simp [hmark, hc]
    exact cutAt_append hnot rest
  have hauthority : ∀ rest, cutAuthority ('/' :: c :: rest) = ([], '/' :: c :: rest) := by
    intro rest
    unfold cutAuthority
    split
    next heq => exact absurd (List.cons.inj (List.cons.inj heq).2).1 hslash
    next => rfl
  have hscheme : ∀ rest, cutScheme ('/' :: rest) = ([], '/' :: rest) := fun _ => rfl
  unfold cut
  rw [hfront '#' (by decide) hhash.symm]
  dsimp only
  rw [hfront '?' (by decide) hask.symm]
  dsimp only
  rw [hscheme]
  dsimp only
  rw [hauthority]

end UrlParts

namespace Url

open UrlParts

/-- An address with a scheme says of what type it is. -/
theorem hasType_of_isScheme {u : Url} (h : IsScheme u.scheme) (hne : u.scheme ≠ "") :
    u.hasType = true := by
  have hword : ∀ c ∈ u.scheme.toList, (decide (c ≠ '/') && decide (c ≠ ':')) = true := by
    intro c hc
    have hchar := h c hc
    by_cases hslash : c = '/'
    · subst hslash
      cases hchar
    · by_cases hcolon : c = ':'
      · subst hcolon
        cases hchar
      · simp [hslash, hcolon]
  have hhash : '#' ∉ u.scheme.toList := fun hc => by cases h _ hc
  obtain ⟨rest, htext⟩ : ∃ rest, u.text.toList = u.scheme.toList ++ ':' :: rest := by
    simp only [text, if_neg hne, String.toList_append, List.append_assoc]
    exact ⟨_, rfl⟩
  -- The last hash stands behind the colon.
  obtain ⟨kept, hkept⟩ : ∃ kept, (if u.text.toList.contains '#' then
      ((u.text.toList.reverse.dropWhile (· ≠ '#')).drop 1).reverse else u.text.toList) =
        u.scheme.toList ++ ':' :: kept := by
    rw [htext]
    split
    next hcontains =>
      have hmem : '#' ∈ rest.reverse := by simpa [hhash] using hcontains
      obtain ⟨behind, before, hrest, hbehind⟩ := List.eq_append_cons_of_mem hmem
      refine ⟨before.reverse, ?_⟩
      rw [List.reverse_append, List.reverse_cons, hrest, List.append_assoc, List.append_assoc,
        List.dropWhile_append_of_pos (decide_ne_of_not_mem hbehind)]
      simp
    next => exact ⟨rest, rfl⟩
  unfold hasType
  dsimp only
  rw [hkept, List.dropWhile_append_of_pos hword]
  have hlength : 0 < u.scheme.toList.length := List.length_pos_iff.mpr (by simpa using hne)
  simp only [List.dropWhile_cons, List.length_append, List.length_cons]
  simp
  omega

/-- Without a fragment, a query stands at the end. -/
theorem text_withQuery {u : Url} (h : u.fragment = none) (query : String) :
    { u with query := some query }.text = { u with query := none }.text ++ "?" ++ query := by
  simp [text, authority, h, String.append_assoc]

theorem parse_eq_ok {s : String} {u : Url} (h : parse s = .ok u) : Makes (cut s.toList) u := by
  obtain ⟨_, _, h⟩ := exists_of_bind_eq_ok h
  exact toUrl_eq_ok_iff.mp h

/-- The parts of an address with another target. -/
def partsWith (u : Url) (target : List Char) : UrlParts :=
  ⟨u.scheme.toList, u.authority.toList, (cutAt '?' target).1, (cutAt '?' target).2,
    u.fragment.map String.toList⟩

theorem withTarget_eq_ok {u v : Url} {target : String} (h : u.withTarget target = .ok v) :
    Makes (u.partsWith target.toList) v := by
  unfold withTarget at h
  dsimp only at h
  obtain ⟨_, _, h⟩ := exists_of_bind_eq_ok h
  obtain ⟨_, _, h⟩ := exists_of_bind_eq_ok h
  obtain ⟨_, _, h⟩ := exists_of_bind_eq_ok h
  obtain ⟨_, _, h⟩ := exists_of_bind_eq_ok h
  obtain ⟨_, _, h⟩ := exists_of_bind_eq_ok h
  exact toUrl_eq_ok_iff.mp h

/-- Whether two addresses lead to the same place, by the same way and as the same user. -/
structure SamePlace (u v : Url) : Prop where
  scheme : u.scheme = v.scheme
  user : u.user = v.user
  host : u.host = v.host
  port : u.port = v.port

/-- Whether an address is another one up to its target. -/
def IsBelow (u base : Url) : Prop :=
  ∃ target, base.withTarget target = .ok u

/-- A target has no part in the place. -/
theorem IsBelow.samePlace {base u v : Url} (hu : u.IsBelow base) (hv : v.IsBelow base) :
    u.SamePlace v := by
  obtain ⟨_, hu⟩ := hu
  obtain ⟨_, hv⟩ := hv
  have hu := withTarget_eq_ok hu
  have hv := withTarget_eq_ok hv
  exact ⟨hu.scheme.trans hv.scheme.symm, hu.user.trans hv.user.symm,
    Except.ok.inj (hu.host.symm.trans hv.host), Except.ok.inj (hu.port.symm.trans hv.port)⟩

end Url

end DesignBridge
