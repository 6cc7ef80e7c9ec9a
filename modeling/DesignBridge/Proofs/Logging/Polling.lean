import DesignBridge.Logging.Config
import DesignBridge.Proofs.Text.Filling
import DesignBridge.Proofs.Text.Occurrence
import Mathlib.Data.List.TakeWhile

/-! # Which access lines are dropped

An access line tells of a request. It is dropped if the letters of GET and a polled path with a
blank behind it stand anywhere in the line. That may be so without anyone polling: the path of the
request, or its query, need only end in a polled path, and the letters may belong to another part of
the line. On the other hand a query behind a polled path keeps the line.
-/

namespace DesignBridge.Access

/-- An access line, in its parts. The target of a request has no blanks; any text may stand for the
other parts. -/
structure Line where
  client : String
  method : String
  target : String
  version : String
  status : Nat
  target_solid : ' ' ∉ target.toList

namespace Line

/-- The line as it is logged. -/
def text (l : Line) : String :=
  l.client ++ " - \"" ++ l.method ++ " " ++ l.target ++ " HTTP/" ++ l.version ++ "\" " ++
    Number.intText l.status

/-- The text with directives that the parts are filled in to. -/
def form : String := "%s - \"%s %s HTTP/%s\" %d"

/-- What is filled in. -/
def arguments (l : Line) : List Json :=
  [.text l.client, .text l.method, .text l.target, .text l.version, .number (.int l.status)]

/-- The path of the target, without the query. -/
def path (l : Line) : String :=
  String.ofList (l.target.toList.takeWhile (· ≠ '?'))

/-- Whether someone polls. -/
def IsPoll (l : Line) : Prop :=
  l.method = "GET" ∧ l.path ∈ polledPaths

instance (l : Line) : Decidable l.IsPoll :=
  inferInstanceAs (Decidable (_ ∧ _))

/-- Whether the letters of the method stand in some part. -/
def SaysGet (l : Line) : Prop :=
  ∃ part ∈ [l.client, l.method, l.target, l.version], Text.contains part "GET" = true

/-- Whether the target ends in a polled path. -/
def EndsPolled (l : Line) : Prop :=
  ∃ path ∈ polledPaths, path.toList <:+ l.target.toList

/-- Whether a polled path stands in some part and a blank behind it. A blank comes behind the
client, the method and the target, and a slash in front of the version. -/
def ShowsPolled (l : Line) : Prop :=
  ∃ path ∈ polledPaths,
    (∃ part ∈ [l.client, l.method, l.target],
      path.toList <:+ part.toList ∨ Text.contains part (path ++ " ") = true) ∨
    Text.contains ("/" ++ l.version) (path ++ " ") = true

/-- Whether the parts are as those of real requests are: an address and a method have no slash, and
a version has no blank. -/
def IsPlain (l : Line) : Prop :=
  '/' ∉ l.client.toList ∧ '/' ∉ l.method.toList ∧ ' ' ∉ l.version.toList

instance (l : Line) : Decidable l.IsPlain :=
  inferInstanceAs (Decidable (_ ∧ _))

theorem toList_text (l : Line) : l.text.toList =
    l.client.toList ++ ' ' :: '-' :: ' ' :: '"' :: (l.method.toList ++ ' ' ::
      (l.target.toList ++ ' ' :: 'H' :: 'T' :: 'T' :: 'P' :: '/' :: (l.version.toList ++
        '"' :: ' ' :: Nat.toDigits 10 l.status))) := by
  simp [text, Number.intText]

/-- Filling in the parts makes the line. -/
theorem fill_form (l : Line) : Text.fill form l.arguments = .ok l.text := by
  have hsteps : Text.Step.ofText form = [.write 's' 1, .char ' ', .char '-', .char ' ', .char '"',
      .write 's' 7, .char ' ', .write 's' 10, .char ' ', .char 'H', .char 'T', .char 'T', .char 'P',
      .char '/', .write 's' 18, .char '"', .char ' ', .write 'd' 22] := by
    decide +kernel
  have hstart : Text.Filling.start l.arguments = ⟨none, l.arguments, {}, []⟩ := rfl
  unfold Text.fill
  rw [if_neg (by simp [arguments]), hsteps, hstart]
  simp only [arguments, Text.Filling.foldlM_char, Text.Filling.foldlM_text,
    Text.Filling.foldlM_nat, List.foldlM_nil]
  refine congrArg Except.ok (?_ : String.ofList (List.reverse _) = l.text)
  rw [String.ext_iff, toList_text]
  simp

/-! ## What a line holds -/

theorem not_mem_digits {c : Char} (hc : c.isDigit = false) (n : Nat) : c ∉ Nat.toDigits 10 n :=
  fun hmem => ne_true_of_eq_false hc (Nat.isDigit_of_mem_toDigits (by decide) (by decide) hmem)

/-- The letters stand in one part, since none of what is between the parts is among them. -/
theorem contains_get_iff (l : Line) : Text.contains l.text "GET" = true ↔ l.SaysGet := by
  have hletters : "GET".toList = ['G', 'E', 'T'] := by decide
  have hdigits : ¬ ['G', 'E', 'T'] <:+: Nat.toDigits 10 l.status := fun hwithin =>
    not_mem_digits (by decide) l.status (hwithin.subset List.mem_cons_self)
  unfold SaysGet
  simp only [List.mem_cons, List.not_mem_nil, or_false, exists_eq_or_imp, exists_eq_left,
    Text.contains_iff, hletters, toList_text]
  simp (disch := decide) only [Text.infix_append_cons_iff, Text.infix_cons_iff_of_ne, hdigits,
    or_false]

theorem polledPath_eq {path : String} (h : path ∈ polledPaths) : ∃ word,
    path.toList = '/' :: word ∧ ' ' ∉ '/' :: word ∧ '"' ∉ '/' :: word := by
  have hshape : ∀ path ∈ polledPaths, path.toList.head? = some '/' ∧ ' ' ∉ path.toList ∧
      '"' ∉ path.toList := by decide
  obtain ⟨hhead, hblank, hquote⟩ := hshape path h
  obtain ⟨word, hword⟩ := List.head?_eq_some_iff.mp hhead
  exact ⟨word, hword, hword ▸ hblank, hword ▸ hquote⟩

/-- The version ends at a quotation mark, so what has none stands in front of it. -/
theorem infix_version_iff (l : Line) {word : List Char} (hquote : '"' ∉ '/' :: word) :
    '/' :: word <:+: '/' :: (l.version.toList ++ '"' :: ' ' :: Nat.toDigits 10 l.status) ↔
      '/' :: word <:+: '/' :: l.version.toList := by
  have hdigits : ¬ '/' :: word <:+: ' ' :: Nat.toDigits 10 l.status := by
    rw [Text.infix_cons_iff_of_ne (by decide)]
    exact fun hwithin => not_mem_digits (by decide) _ (hwithin.subset List.mem_cons_self)
  rw [← List.cons_append, Text.infix_append_cons_iff hquote, or_iff_left hdigits]

/-- A polled path with a blank behind it stands in one part, at its end if the blank is the one
behind the part. -/
theorem contains_polled_iff (l : Line) {path : String} (hpath : path ∈ polledPaths) :
    Text.contains l.text (path ++ " ") = true ↔
      (∃ part ∈ [l.client, l.method, l.target],
        path.toList <:+ part.toList ∨ Text.contains part (path ++ " ") = true) ∨
      Text.contains ("/" ++ l.version) (path ++ " ") = true := by
  obtain ⟨word, hword, hblank, hquote⟩ := polledPath_eq hpath
  have hneedle : (path ++ " ").toList = ('/' :: word) ++ [' '] := by
    rw [String.toList_append, hword]
    rfl
  have hslash : ("/" ++ l.version).toList = '/' :: l.version.toList := by simp
  have hskip : ∀ c rest, '/' ≠ c →
      (('/' :: word) ++ [' '] <:+: c :: rest ↔ ('/' :: word) ++ [' '] <:+: rest) :=
    fun _ _ hne => Text.infix_cons_iff_of_ne hne
  have hquote : '"' ∉ '/' :: (word ++ [' ']) := by simpa using hquote
  have hversion : ('/' :: word) ++ [' '] <:+: _ ↔
      ('/' :: word) ++ [' '] <:+: '/' :: l.version.toList := l.infix_version_iff hquote
  simp only [List.mem_cons, List.not_mem_nil, or_false, exists_eq_or_imp, exists_eq_left,
    Text.contains_iff, hneedle, hslash, hword, toList_text]
  simp (disch := decide) only [Text.concat_infix_append_cons_iff hblank, hskip, hversion, or_assoc]

theorem isPolling_text_iff (l : Line) :
    isPolling l.text = true ↔ l.SaysGet ∧ l.ShowsPolled := by
  rw [isPolling, Bool.and_eq_true, contains_get_iff, List.any_eq_true, ShowsPolled]
  refine and_congr_right fun _ => exists_congr fun path => ?_
  exact and_congr_right fun hpath => l.contains_polled_iff hpath

/-- A text without a slash shows no polled path. -/
theorem not_shown_of_not_mem {path part : String} (hpath : path ∈ polledPaths)
    (h : '/' ∉ part.toList) :
    ¬ (path.toList <:+ part.toList ∨ Text.contains part (path ++ " ") = true) := by
  have hslash : ∀ path ∈ polledPaths, '/' ∈ path.toList := by decide
  rintro (hsuffix | hcontains)
  · exact h (hsuffix.subset (hslash path hpath))
  · refine h ((Text.contains_iff.mp hcontains).subset ?_)
    rw [String.toList_append]
    exact List.mem_append_left _ (hslash path hpath)

/-- A text without a blank holds no path with a blank behind it. -/
theorem not_contains_blank {part : String} (h : ' ' ∉ part.toList) (path : String) :
    ¬ Text.contains part (path ++ " ") = true := by
  intro hcontains
  refine h ((Text.contains_iff.mp hcontains).subset ?_)
  rw [String.toList_append]
  exact List.mem_append_right _ (by decide)

theorem EndsPolled.showsPolled {l : Line} (h : l.EndsPolled) : l.ShowsPolled := by
  obtain ⟨path, hpath, hsuffix⟩ := h
  exact ⟨path, hpath, Or.inl ⟨l.target, by simp, Or.inl hsuffix⟩⟩

/-- In the line of a real request a polled path shows just where the target ends in it. -/
theorem IsPlain.showsPolled_iff {l : Line} (h : l.IsPlain) : l.ShowsPolled ↔ l.EndsPolled := by
  refine ⟨?_, EndsPolled.showsPolled⟩
  obtain ⟨hclient, hmethod, hversion⟩ := h
  rintro ⟨path, hpath, ⟨part, hpart, hshown⟩ | hshown⟩
  · simp only [List.mem_cons, List.not_mem_nil, or_false] at hpart
    obtain rfl | rfl | rfl := hpart
    · exact absurd hshown (not_shown_of_not_mem hpath hclient)
    · exact absurd hshown (not_shown_of_not_mem hpath hmethod)
    · exact ⟨path, hpath, hshown.resolve_right (not_contains_blank l.target_solid path)⟩
  · have hsolid : ' ' ∉ ("/" ++ l.version).toList := by simpa using hversion
    exact absurd hshown (not_contains_blank hsolid path)

theorem IsPoll.saysGet {l : Line} (h : l.IsPoll) : l.SaysGet := by
  refine ⟨l.method, by simp, ?_⟩
  rw [h.1]
  decide

/-- Who polls without a query has a target that ends in a polled path. -/
theorem IsPoll.endsPolled {l : Line} (h : l.IsPoll) (hquery : '?' ∉ l.target.toList) :
    l.EndsPolled := by
  refine ⟨l.path, h.2, ?_⟩
  have hwhole : l.target.toList.takeWhile (· ≠ '?') = l.target.toList := by
    rw [List.takeWhile_eq_self_iff]
    intro c hc
    simpa using fun heq : c = '?' => hquery (heq ▸ hc)
  have hpath : l.path.toList = l.target.toList := by
    rw [path, hwhole, String.toList_ofList]
  exact hpath ▸ List.suffix_refl _

end Line

/-- A record that makes the line of a request is dropped just if the letters of the method stand in
some part of the line, and a polled path with a blank behind it in some part. The line of a real
request shows such a path where its target ends in one. So it is dropped or kept as it should be
just if the target of who polls ends in a polled path, and that of no one else does in whose line
the letters stand. Who polls without a query is never seen. -/
theorem dropped_iff_letters_and_path {l : Line} {text : String} {arguments : List Json}
    (hfill : Text.fill text arguments = .ok l.text) : ∃ kept,
    keeps logger text arguments = .ok kept ∧
      (kept = false ↔ l.SaysGet ∧ l.ShowsPolled) ∧
      (l.IsPlain → (l.ShowsPolled ↔ l.EndsPolled) ∧
        ((kept = false ↔ l.IsPoll) ↔
          (l.IsPoll → l.EndsPolled) ∧ (l.SaysGet → l.EndsPolled → l.IsPoll))) ∧
      (l.IsPoll → '?' ∉ l.target.toList → kept = false) := by
  have hkeeps : keeps logger text arguments = .ok (!isPolling l.text) := by
    rw [keeps, if_pos rfl, hfill]
    rfl
  have hdropped : (!isPolling l.text) = false ↔ l.SaysGet ∧ l.ShowsPolled := by
    rw [Bool.not_eq_false', l.isPolling_text_iff]
  refine ⟨_, hkeeps, hdropped, fun hplain => ⟨hplain.showsPolled_iff, ?_⟩, fun hpoll hquery => ?_⟩
  · rw [hdropped, hplain.showsPolled_iff]
    constructor
    · intro hright
      exact ⟨fun hpoll => (hright.mpr hpoll).2, fun hget hends => hright.mp ⟨hget, hends⟩⟩
    · rintro ⟨hends, hpoll⟩
      exact ⟨fun hboth => hpoll hboth.1 hboth.2, fun h => ⟨h.saysGet, hends h⟩⟩
  · exact hdropped.mpr ⟨hpoll.saysGet, (hpoll.endsPolled hquery).showsPolled⟩

/-- Who polls is not seen, whatever the client, the version and the status are. -/
theorem dropped_iff_letters_and_path_polled :
    let l : Line := ⟨"[::1]:40312", "GET", "/healthz", "2", 503, by decide⟩
    Text.fill Line.form l.arguments = .ok l.text ∧ l.IsPlain ∧ l.IsPoll ∧
      '?' ∉ l.target.toList ∧ keeps logger Line.form l.arguments = .ok false ∧ l.EndsPolled := by
  intro l
  have hplain : l.IsPlain := by decide +kernel
  have hpoll : l.IsPoll := by decide +kernel
  have hquery : '?' ∉ l.target.toList := by decide
  obtain ⟨kept, hkept, hshown, hright, hdropped⟩ := dropped_iff_letters_and_path l.fill_form
  obtain rfl : kept = false := hdropped hpoll hquery
  obtain ⟨hends, _⟩ := hright hplain
  exact ⟨l.fill_form, hplain, hpoll, hquery, hkept, hends.mp (hshown.mp rfl).2⟩

/-- A page below the polled paths is not seen either, and who polls with a query is seen. -/
theorem page_hidden_and_poll_seen :
    let page : Line := ⟨"127.0.0.1:40312", "GET", "/pages/health", "1.1", 200, by decide⟩
    let poll : Line := ⟨"127.0.0.1:40312", "GET", "/health?wait=1", "1.1", 200, by decide⟩
    (page.IsPlain ∧ ¬ page.IsPoll ∧ keeps logger Line.form page.arguments = .ok false) ∧
      poll.IsPlain ∧ poll.IsPoll ∧ keeps logger Line.form poll.arguments = .ok true := by
  intro page poll
  refine ⟨⟨by decide +kernel, by decide +kernel, ?_⟩, by decide +kernel, by decide +kernel, ?_⟩
  · rw [keeps, if_pos rfl, Line.fill_form]
    decide +kernel
  · rw [keeps, if_pos rfl, Line.fill_form]
    decide +kernel

end DesignBridge.Access
