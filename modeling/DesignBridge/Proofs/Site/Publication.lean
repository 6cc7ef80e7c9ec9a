import DesignBridge.Proofs.Site.Sending
import DesignBridge.Proofs.Web.Path

/-! # Where a site is published

The name of a site is put between two segments of an address, and the whole is read as one. It stays
one segment just if it holds no mark of addresses and no escape, and is not made of dots.
-/

namespace DesignBridge

open Text UrlParts

namespace Url

/-- The path of an address, or what stands for it if that is empty. -/
def root (u : Url) : String :=
  if u.path = "" then "/" else u.path

/-- What stands behind a path for a query. -/
def queryTail : Option (List Char) → List Char
  | some query => '?' :: query
  | none => []

theorem target_eq (u : Url) :
    u.target.toList = u.root.toList ++ queryTail (u.query.map String.toList) := by
  unfold target root
  cases u.query <;> simp [queryTail]

theorem cutAt_queryTail {front : List Char} (h : '?' ∉ front) (query : Option (List Char)) :
    cutAt '?' (front ++ queryTail query) = (front, query) := by
  cases query with
  | none => rw [queryTail, List.append_nil, cutAt_of_not_mem h]
  | some query => exact cutAt_append_cons h query

/-- What follows a target goes on with the query, if there is one. -/
theorem cutAt_target {u : Url} (h : '?' ∉ u.root.toList) (cs : List Char) :
    cutAt '?' (u.target.toList ++ cs) = match u.query with
      | some query => (u.root.toList, some (query.toList ++ cs))
      | none => (u.root.toList ++ (cutAt '?' cs).1, (cutAt '?' cs).2) := by
  rw [target_eq]
  cases u.query with
  | none =>
      rw [Option.map_none, queryTail, List.append_nil]
      exact cutAt_append h cs
  | some query =>
      rw [Option.map_some, queryTail, List.append_assoc, List.cons_append]
      exact cutAt_append_cons h _

end Url

namespace UrlParts

variable {placed : Bool} {parts : UrlParts} {base u v : Url} {target : List Char}

theorem IsSettled.mono {path : List Char} {other : Bool} (h : IsSettled placed path)
    (himp : other = true → placed = true) : IsSettled other path :=
  ⟨h.escaped, fun hother => h.plain (himp hother)⟩

theorem IsSettled.not_mem {path : List Char} (h : IsSettled placed path) : '?' ∉ path :=
  fun hmem => by cases h.escaped '?' hmem

theorem Makes.isSettled_root (h : Makes parts u) : IsSettled u.hasPlace u.root.toList := by
  unfold Url.root
  split
  next =>
    have hplain : ∀ segment ∈ splitAt '/' "/".toList, ¬ IsDots segment := by decide
    exact ⟨List.all_eq_true.mp (by decide), fun _ => hplain⟩
  next =>
    rw [h.path, String.toList_ofList]
    exact isSettled_encode _ _

/-- An address with another target has a place only if the first one does. -/
theorem Makes.hasPlace_of_partsWith (h : Makes (base.partsWith target) v)
    (hv : v.hasPlace = true) : base.hasPlace = true := by
  by_cases hbase : base.hasPlace = true
  · exact hbase
  · -- What is put together from empty parts has no place either.
    simp only [Url.hasPlace, Url.hasAuthority, Bool.not_eq_true, Bool.or_eq_false_iff,
      bne_eq_false_iff_eq, Option.isSome_eq_false_iff, Option.isNone_iff_eq_none] at hbase
    obtain ⟨hscheme, ⟨huser, hhost⟩, hport⟩ := hbase
    have hauthority : base.authority = "" := by simp [Url.authority, huser, hhost, hport]
    have hparts : base.partsWith target = { base.partsWith target with
        scheme := [], authority := [] } := by simp [Url.partsWith, hscheme, hauthority]
    rw [hparts] at h
    have hnone : v.scheme = "" ∧ v.user = "" ∧ v.host = "" ∧ v.port = none :=
      ⟨h.scheme, h.user, (Except.ok.inj h.host).symm, (Except.ok.inj h.port).symm⟩
    simp [Url.hasPlace, Url.hasAuthority, hnone] at hv

end UrlParts

namespace SiteClient

variable {settings : SiteSettings} {client : SiteClient}

/-- The base of a client ends in a slash, if it has no query. -/
theorem root_base (h : create settings = .ok client) :
    IsSettled client.base.hasPlace client.base.root.toList ∧
      (client.base.query = none → ∃ front, client.base.root.toList = front ++ ['/']) := by
  obtain ⟨_, u, hparse, hbase⟩ := create_eq_ok h
  have hu := (Url.parse_eq_ok hparse).isSettled_root
  unfold Url.asBase at hbase
  split at hbase
  next hlast =>
    obtain rfl := Except.ok.inj hbase
    refine ⟨hu, fun hquery => ?_⟩
    rw [Url.target_eq, hquery, Option.map_none, Url.queryTail, List.append_nil] at hlast
    exact List.getLast?_eq_some_iff.mp hlast
  next =>
    have hmade := Url.withTarget_eq_ok hbase
    refine ⟨hmade.isSettled_root, fun hquery => ?_⟩
    have hsettled := hu.mono hmade.hasPlace_of_partsWith
    have hcut := Url.cutAt_target hu.not_mem ['/']
    have htarget : (u.target ++ "/").toList = u.target.toList ++ ['/'] := String.toList_append
    cases huquery : u.query with
    | some query =>
        rw [huquery] at hcut
        have hmore := hmade.query
        rw [hquery, htarget, Url.partsWith, hcut] at hmore
        cases hmore
    | none =>
        rw [huquery] at hcut
        have hpath : client.base.path.toList = u.root.toList ++ ['/'] := by
          have hplain : ∀ segment ∈ splitAt '/' [], ¬ IsDots segment := by decide
          rw [hmade.path, String.toList_ofList, htarget, Url.partsWith, hcut]
          exact hsettled.append hplain
        have hne : client.base.path ≠ "" := fun hnil => by simp [hnil] at hpath
        exact ⟨u.root.toList, by rw [Url.root, if_neg hne, hpath]⟩

/-- What of the name of a site, with the segment behind it, belongs to the path, and what to the
query. -/
def publishCut (siteId : String) : List Char × Option (List Char) :=
  cutAt '?' (cutAt '#' (siteId.toList ++ "/publish".toList)).1

/-- The endpoint that publishes is read as an address without a place. -/
theorem parse_publish {siteId : String} {u : Url}
    (h : Url.parse ("/sites/" ++ siteId ++ "/publish") = .ok u) :
    u.isAbsolute = false ∧ u.root.toList = "/sites/".toList ++
        Percent.encode isPathChar (publishCut siteId).1 ∧
      u.query = (publishCut siteId).2.map fun cs =>
        String.ofList (Percent.encode isQueryChar cs) := by
  have htext : ("/sites/" ++ siteId ++ "/publish").toList =
      '/' :: 's' :: ("ites/".toList ++ (siteId.toList ++ "/publish".toList)) := by simp
  have hmade := Url.parse_eq_ok h
  rw [htext, cut_of_slash (by decide) (by decide) (by decide), cutAt_append (by decide)] at hmade
  dsimp only at hmade
  rw [cutAt_append (by decide)] at hmade
  have hnone : u.scheme = "" ∧ u.user = "" ∧ u.host = "" ∧ u.port = none :=
    ⟨hmade.scheme, hmade.user, (Except.ok.inj hmade.host).symm, (Except.ok.inj hmade.port).symm⟩
  have hplace : u.hasPlace = false := by simp [Url.hasPlace, Url.hasAuthority, hnone]
  have hpath : u.path.toList = "/sites/".toList ++
      Percent.encode isPathChar (publishCut siteId).1 := by
    rw [hmade.path, String.toList_ofList, hplace]
    show Percent.encode isPathChar ("/sites/".toList ++ (publishCut siteId).1) = _
    rw [Percent.encode_append, Percent.encode_of_safe (List.all_eq_true.mp (by decide))]
  have hne : u.path ≠ "" := fun hnil => by simp [hnil] at hpath
  refine ⟨by simp [Url.isAbsolute, hnone], by rw [Url.root, if_neg hne, hpath], hmade.query⟩

/-- The address that is asked for is that of the base with another target. -/
theorem publish_eq_withTarget {made : SiteRequest} {authorization : Option String} {accept : String}
    {body : Option Json} {siteId : String} (h : client.prepare "POST"
      ("/sites/" ++ siteId ++ "/publish") authorization accept body = .ok made) :
    ∃ target, client.base.withTarget target = .ok made.url ∧
      target.toList = client.base.target.toList ++ ("sites/".toList ++
        Percent.encode isPathChar (publishCut siteId).1 ++
        Url.queryTail ((publishCut siteId).2.map (Percent.encode isQueryChar))) := by
  obtain ⟨u, hparse, happend, _⟩ := prepare_eq_ok h
  obtain ⟨habsolute, hroot, hquery⟩ := parse_publish hparse
  unfold Url.append at happend
  rw [if_neg (by rw [habsolute]; exact Bool.false_ne_true)] at happend
  refine ⟨_, happend, ?_⟩
  rw [String.toList_append, String.toList_ofList, Url.target_eq u, hroot, hquery, Option.map_map]
  have hlist : (String.toList ∘ fun cs => String.ofList (Percent.encode isQueryChar cs)) =
      Percent.encode isQueryChar := funext fun cs => String.toList_ofList
  rw [hlist]
  rfl

/-- What the address that is asked for is made of. -/
theorem publish_made (hclient : create settings = .ok client) {made : SiteRequest}
    {authorization : Option String} {accept : String} {body : Option Json} {siteId : String}
    (h : client.prepare "POST" ("/sites/" ++ siteId ++ "/publish") authorization accept body =
      .ok made) :
    (made.url.fragment = none ↔ client.base.fragment = none) ∧
      (made.url.query = none ↔ client.base.query = none ∧ (publishCut siteId).2 = none) ∧
      (client.base.query = none → IsSettled made.url.hasPlace client.base.root.toList ∧
        made.url.path.toList = Percent.encode isPathChar (placedPath made.url.hasPlace
          (client.base.root.toList ++ ("sites/".toList ++
            Percent.encode isPathChar (publishCut siteId).1)))) := by
  obtain ⟨target, htarget, hlist⟩ := publish_eq_withTarget h
  have hmade := Url.withTarget_eq_ok htarget
  have hroot := (root_base hclient).1
  have hfront : '?' ∉ "sites/".toList ++ Percent.encode isPathChar (publishCut siteId).1 := by
    intro hmem
    obtain hmem | hmem := List.mem_append.mp hmem
    · exact absurd hmem (by decide)
    · cases isPathChar_isPlain.safe_of_mem_encode (by decide) hmem
  have hcut := Url.cutAt_target hroot.not_mem ("sites/".toList ++
    Percent.encode isPathChar (publishCut siteId).1 ++
      Url.queryTail ((publishCut siteId).2.map (Percent.encode isQueryChar)))
  rw [Url.cutAt_queryTail hfront, ← hlist] at hcut
  refine ⟨?_, ?_, fun hquery => ⟨hroot.mono hmade.hasPlace_of_partsWith, ?_⟩⟩
  · rw [hmade.fragment, Url.partsWith, Option.map_map, Option.map_eq_none_iff]
  · rw [hmade.query, Url.partsWith, hcut, Option.map_eq_none_iff]
    cases client.base.query <;> simp
  · rw [hmade.path, String.toList_ofList, Url.partsWith, hcut, hquery]

end SiteClient

/-- Whether a text stands for itself as one segment of a path: it holds no mark of addresses and no
escape, and is not made of dots. -/
structure IsSegment (s : String) : Prop where
  slash : '/' ∉ s.toList
  ask : '?' ∉ s.toList
  hash : '#' ∉ s.toList
  dots : ¬ IsDots s.toList
  escapes : Percent.hasEscape s.toList = false

/-- Whether an address is that, below a base, at which a site is published: its path is that of the
base with three more segments, the second of which is read as the name of the site. -/
structure Url.Publishes (u base : Url) (siteId : String) : Prop where
  path : ∃ segment, u.path.toList =
      base.root.toList ++ "sites/".toList ++ segment ++ "/publish".toList ∧
    '/' ∉ segment ∧ ¬ IsDots segment ∧ Percent.decode segment = siteId.toList
  query : u.query = none
  fragment : u.fragment = none

namespace SiteClient

variable {settings : SiteSettings} {client : SiteClient} {siteId : String}

/-- A segment is followed by the last one, and nothing of it is query or fragment. -/
theorem publishCut_of_isSegment (h : IsSegment siteId) :
    publishCut siteId = (siteId.toList ++ "/publish".toList, none) := by
  have hhash : '#' ∉ siteId.toList ++ "/publish".toList := by
    simpa using h.hash
  have hask : '?' ∉ siteId.toList ++ "/publish".toList := by
    simpa using h.ask
  rw [publishCut, cutAt_of_not_mem hhash]
  exact cutAt_of_not_mem hask

/-- If nothing of a name is query, then what is path is cut short by a hash, or it is all of the
name. -/
theorem publishCut_of_query_eq_none (h : (publishCut siteId).2 = none) :
    (publishCut siteId).1.length < siteId.toList.length ∨
      '#' ∉ siteId.toList ∧ '?' ∉ siteId.toList ∧
        (publishCut siteId).1 = siteId.toList ++ "/publish".toList := by
  have hask := cutAt_snd_eq_none_iff.mp h
  rw [publishCut, cutAt_of_not_mem hask]
  by_cases hhash : '#' ∈ siteId.toList
  · obtain ⟨front, back, hname, hfront⟩ := List.eq_append_cons_of_mem hhash
    rw [hname, List.append_assoc, List.cons_append, cutAt_append_cons hfront, List.length_append,
      List.length_cons]
    exact .inl (by dsimp only; omega)
  · have hnot : '#' ∉ siteId.toList ++ "/publish".toList := by simpa using hhash
    rw [cutAt_of_not_mem hnot] at hask ⊢
    exact .inr ⟨hhash, fun hmem => hask (List.mem_append_left _ hmem), rfl⟩

/-- Of the pieces of a name with the last segment behind it, only these two are as long as the
name. -/
theorem eq_of_mem_splitAt {name piece : List Char}
    (h : piece ∈ splitAt '/' (name ++ "/publish".toList)) (hlength : name.length ≤ piece.length) :
    piece = name ∨ piece = "publish".toList := by
  have hparts : splitAt '/' (name ++ "/publish".toList) =
      splitAt '/' name ++ ["publish".toList] := splitAt_append_cons '/' _ _
  rw [hparts] at h
  obtain h | h := List.mem_append.mp h
  · by_cases hslash : '/' ∈ name
    · have hlt := length_lt_of_mem_splitAt hslash h
      omega
    · rw [splitAt_of_not_mem hslash] at h
      exact .inl (List.mem_singleton.mp h)
  · exact .inr (List.mem_singleton.mp h)

/-- If the name of a site is read from a segment of what is path, it is that segment. -/
theorem isSegment_of_mem {piece : List Char} (hquery : (publishCut siteId).2 = none)
    (hpiece : piece ∈ splitAt '/' (publishCut siteId).1)
    (hplain : ¬ IsDots (Percent.encode isPathChar piece))
    (hread : Percent.decode (Percent.encode isPathChar piece) = siteId.toList) :
    IsSegment siteId := by
  have hlength := isPathChar_isPlain.length_decode_encode_le (by decide) piece
  rw [hread] at hlength
  obtain hshort | ⟨hhash, hask, hpath⟩ := publishCut_of_query_eq_none hquery
  · have hle := length_le_of_mem_splitAt hpiece
    omega
  · have hname : piece = siteId.toList := by
      rw [hpath] at hpiece
      obtain hname | hlast := eq_of_mem_splitAt hpiece (by omega)
      · exact hname
      · have hdecode : Percent.decode (Percent.encode isPathChar "publish".toList) =
            "publish".toList := isPathChar_isPlain.decode_encode fun _ => by decide
        rw [hlast, hdecode] at hread
        exact hlast.trans hread
    subst hname
    refine ⟨not_mem_of_mem_splitAt hpiece, hask, hhash,
      fun hdots => hplain (isDots_encode.mpr hdots), Bool.eq_false_iff.mpr fun hescape => ?_⟩
    rw [if_pos hescape] at hlength
    omega

/-- The segments that are asked for when the name of a site is one of them. -/
theorem splitAt_sites (h : '/' ∉ siteId.toList) : splitAt '/' ("sites/".toList ++
    Percent.encode isPathChar (siteId.toList ++ "/publish".toList)) =
      ["sites".toList, Percent.encode isPathChar siteId.toList, "publish".toList] := by
  have hname : splitAt '/' (siteId.toList ++ "/publish".toList) =
      [siteId.toList, "publish".toList] := by
    refine (splitAt_append_cons '/' siteId.toList "publish".toList).trans ?_
    rw [splitAt_of_not_mem h]
    rfl
  have hpublish : Percent.encode isPathChar "publish".toList = "publish".toList :=
    Percent.encode_of_safe (List.all_eq_true.mp (by decide))
  refine (splitAt_append_cons '/' "sites".toList
    (Percent.encode isPathChar (siteId.toList ++ "/publish".toList))).trans ?_
  rw [splitAt_encode, hname, List.map_cons, List.map_cons, List.map_nil, hpublish]
  rfl

/-- A segment is written between those that stand around it. -/
theorem encode_path_of_isSegment (h : IsSegment siteId) {placed : Bool} {front : List Char}
    (hfront : IsSettled placed front) :
    Percent.encode isPathChar (placedPath placed (front ++ '/' :: ("sites/".toList ++
      Percent.encode isPathChar (siteId.toList ++ "/publish".toList)))) =
        front ++ '/' :: ("sites/".toList ++
          (Percent.encode isPathChar siteId.toList ++ "/publish".toList)) := by
  have hplain : ∀ segment ∈ splitAt '/' ("sites/".toList ++
      Percent.encode isPathChar (siteId.toList ++ "/publish".toList)), ¬ IsDots segment := by
    have hdots : ¬ IsDots (Percent.encode isPathChar siteId.toList) := fun hdots =>
      h.dots (isDots_encode.mp hdots)
    rw [splitAt_sites h.slash]
    simp only [List.forall_mem_cons, List.not_mem_nil, false_implies, implies_true, and_true]
    exact ⟨by decide, hdots, by decide⟩
  have hlast : Percent.encode isPathChar "/publish".toList = "/publish".toList :=
    Percent.encode_of_safe (List.all_eq_true.mp (by decide))
  rw [hfront.append hplain, Percent.encode_append, isPathChar_isPlain.encode_encode (by decide),
    Percent.encode_append, hlast, Percent.encode_of_safe (List.all_eq_true.mp (by decide))]

section

variable {made : SiteRequest} {authorization : Option String} {accept : String}
  {body : Option Json}

/-- If a site is published at its address, its name is a segment. -/
theorem isSegment_of_publishes (hclient : create settings = .ok client)
    (h : client.prepare "POST" ("/sites/" ++ siteId ++ "/publish") authorization accept body =
      .ok made) (hpublishes : made.url.Publishes client.base siteId) :
    client.base.query = none ∧ client.base.fragment = none ∧ IsSegment siteId := by
  obtain ⟨hfragment, hquery, hpath⟩ := publish_made hclient h
  obtain ⟨⟨segment, hsegments, hslash, hplain, hread⟩, hnoquery, hnofragment⟩ := hpublishes
  obtain ⟨hbase, hcut⟩ := hquery.mp hnoquery
  obtain ⟨front, hroot⟩ := (root_base hclient).2 hbase
  obtain ⟨hsettled, hmade⟩ := hpath hbase
  rw [hroot] at hsettled hmade hsegments
  have hlong : Percent.encode isPathChar (placedPath made.url.hasPlace (front ++ '/' ::
      ("sites".toList ++ '/' :: Percent.encode isPathChar (publishCut siteId).1))) =
        front ++ '/' :: ("sites".toList ++ '/' :: (segment ++ '/' :: "publish".toList)) := by
    simpa using hmade.symm.trans hsegments
  obtain ⟨piece, hpiece, rfl⟩ := hsettled.of_append.exists_segment (by decide) (by decide) hslash
    (by decide) hlong
  exact ⟨hbase, hfragment.mp hnofragment, isSegment_of_mem hcut hpiece hplain hread⟩

/-- A site whose name is a segment is published at its address. -/
theorem publishes_of_isSegment (hclient : create settings = .ok client)
    (h : client.prepare "POST" ("/sites/" ++ siteId ++ "/publish") authorization accept body =
      .ok made) (hbase : client.base.query = none) (hnofragment : client.base.fragment = none)
    (hsegment : IsSegment siteId) : made.url.Publishes client.base siteId := by
  obtain ⟨hfragment, hquery, hpath⟩ := publish_made hclient h
  obtain ⟨front, hroot⟩ := (root_base hclient).2 hbase
  obtain ⟨hsettled, hmade⟩ := hpath hbase
  have hcut := publishCut_of_isSegment hsegment
  refine ⟨⟨Percent.encode isPathChar siteId.toList, ?_, ?_, ?_, ?_⟩, ?_, ?_⟩
  · rw [hroot] at hsettled hmade ⊢
    have hpublish := encode_path_of_isSegment hsegment hsettled.of_append
    rw [hcut] at hmade
    simpa using hmade.trans (by simpa using hpublish)
  · intro hmem
    obtain ⟨hin, _⟩ | hmem | hmem := Percent.mem_encode hmem
    · exact hsegment.slash hin
    · cases hmem
    · cases hmem
  · exact fun hdots => hsegment.dots (isDots_encode.mp hdots)
  · exact isPathChar_isPlain.decode_encode fun _ => hsegment.escapes
  · exact hquery.mpr ⟨hbase, congrArg Prod.snd hcut⟩
  · exact hfragment.mpr hnofragment

/-- A site is published at its address just if the base has no query and no fragment, and the name
of the site stands for itself as a segment. -/
theorem publishes_iff (hclient : create settings = .ok client)
    (h : client.prepare "POST" ("/sites/" ++ siteId ++ "/publish") authorization accept body =
      .ok made) : made.url.Publishes client.base siteId ↔
        client.base.query = none ∧ client.base.fragment = none ∧ IsSegment siteId :=
  ⟨isSegment_of_publishes hclient h, fun ⟨hbase, hnofragment, hsegment⟩ =>
    publishes_of_isSegment hclient h hbase hnofragment hsegment⟩

end

end SiteClient

end DesignBridge
