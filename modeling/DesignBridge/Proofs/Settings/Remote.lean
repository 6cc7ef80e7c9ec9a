import DesignBridge.Proofs.Text.Occurrence
import DesignBridge.Proofs.Web.Url
import DesignBridge.Settings.Executor

/-! # Bridges on other machines

An executor that reaches its bridge without encryption warns if the bridge is on another machine. A
host counts as this machine if it begins with one of its names. So there is a warning about every
other host, except one whose name goes on where a name of this machine ends.
-/

namespace DesignBridge

namespace ExecutorOptions

/-- The address that settings are made with: the given one, or else that of the environment. An
empty address counts as not given. -/
def address (options : ExecutorOptions) (env : Environment) : String :=
  (options.url.filter (· ≠ "")).getD (env.getD "BRIDGE_WS_URL" ExecutorSettings.defaultUrl)

/-- The options of an executor that is given an address only. -/
def ofUrl (url : String) : ExecutorOptions :=
  { none with url := some url }

end ExecutorOptions

/-- An address without encryption. Any text may stand for the host and for the port. -/
structure PlainAddress where
  host : String
  port : Option String
  path : String
  path_rooted : path = "" ∨ path.toList.head? = some '/'

namespace PlainAddress

/-- What stands behind the host. -/
def tail (a : PlainAddress) : String :=
  a.port.elim "" (":" ++ ·) ++ a.path

def text (a : PlainAddress) : String :=
  "ws://" ++ a.host ++ a.tail

/-- The names of this machine. -/
def localHosts : List String := ["127.0.0.1", "localhost"]

/-- Whether a host is another one than this machine, but begins with one of its names. -/
def IsLookalike (host : String) : Prop :=
  ∃ name ∈ localHosts, ∃ more, more ≠ "" ∧ host = name ++ more

/-- A host begins with a name of this machine if it is this machine or looks like it. -/
theorem startsWith_localHost_iff {host : String} :
    (∃ name ∈ localHosts, Text.startsWith host name = true) ↔
      host ∈ localHosts ∨ IsLookalike host := by
  constructor
  · rintro ⟨name, hname, hstarts⟩
    obtain ⟨more, hmore⟩ := Text.startsWith_iff.mp hstarts
    have hhost : host = name ++ String.ofList more := by
      rw [String.ext_iff, String.toList_append, String.toList_ofList, hmore]
    cases more with
    | nil =>
        refine Or.inl ?_
        rwa [hhost, String.ofList_nil, String.append_empty]
    | cons c rest => exact Or.inr ⟨name, hname, _, by simp, hhost⟩
  · rintro (hhost | ⟨name, hname, more, _, rfl⟩)
    · exact ⟨host, hhost, Text.startsWith_iff.mpr (List.prefix_refl _)⟩
    · refine ⟨name, hname, Text.startsWith_iff.mpr ?_⟩
      rw [String.toList_append]
      exact List.prefix_append _ _

/-- No name of this machine goes on where another one ends. -/
theorem IsLookalike.not_mem {host : String} (h : IsLookalike host) : host ∉ localHosts := by
  obtain ⟨name, hname, more, hmore, rfl⟩ := h
  intro hmem
  have happart : ∀ name ∈ localHosts, ∀ other ∈ localHosts, name.toList <+: other.toList →
      name.toList.length = other.toList.length := by decide
  have hprefix : name.toList <+: (name ++ more).toList := by
    rw [String.toList_append]
    exact List.prefix_append _ _
  have hlength := happart name hname _ hmem hprefix
  rw [String.toList_append, List.length_append] at hlength
  have hnil : more.toList = [] := List.length_eq_zero_iff.mp (by omega)
  exact hmore (String.toList_eq_nil_iff.mp hnil)

/-- Behind the host there is nothing, or a colon or a slash comes. -/
theorem head_tail (a : PlainAddress) : ∀ c ∈ a.tail.toList.head?, c = ':' ∨ c = '/' := by
  intro c hc
  unfold tail at hc
  cases hport : a.port with
  | some port =>
      rw [hport] at hc
      exact Or.inl (by simpa [eq_comm] using hc)
  | none =>
      rw [hport] at hc
      obtain hpath | hpath := a.path_rooted
      · simp [hpath] at hc
      · exact Or.inr (by simpa [hpath, eq_comm] using hc)

theorem startsWith_text (a : PlainAddress) {name : String} (hname : name ∈ localHosts) :
    Text.startsWith a.text ("ws://" ++ name) = true ↔ Text.startsWith a.host name = true := by
  have hmarks : ∀ name ∈ localHosts, ':' ∉ name.toList ∧ '/' ∉ name.toList := by decide
  obtain ⟨hcolon, hslash⟩ := hmarks name hname
  have hend : ∀ c ∈ a.tail.toList.head?, c ∉ name.toList := by
    intro c hc
    obtain rfl | rfl := a.head_tail c hc
    · exact hcolon
    · exact hslash
  unfold text
  rw [Text.startsWith_iff, Text.startsWith_iff, String.append_assoc, String.toList_append,
    String.toList_append, String.toList_append, List.prefix_append_right_inj,
    Text.prefix_append_iff hend]

theorem isPlainRemote_text (a : PlainAddress) :
    ExecutorSettings.isPlainRemote a.text = true ↔ a.host ∉ localHosts ∧ ¬ IsLookalike a.host := by
  have hscheme : Text.startsWith a.text "ws://" = true := by
    rw [Text.startsWith_iff, text, String.append_assoc, String.toList_append]
    exact List.prefix_append _ _
  have hnames : (Text.startsWith a.text "ws://127.0.0.1" ||
      Text.startsWith a.text "ws://localhost") = true ↔
        ∃ name ∈ localHosts, Text.startsWith a.host name = true := by
    have hnumber : _ ↔ Text.startsWith a.host "127.0.0.1" = true := a.startsWith_text (by decide)
    have hword : _ ↔ Text.startsWith a.host "localhost" = true := a.startsWith_text (by decide)
    rw [Bool.or_eq_true]
    simp only [localHosts, List.mem_cons, List.not_mem_nil, or_false, exists_eq_or_imp,
      exists_eq_left]
    exact or_congr hnumber hword
  rw [ExecutorSettings.isPlainRemote, hscheme, Bool.true_and, Bool.not_eq_true',
    ← Bool.not_eq_true, hnames, startsWith_localHost_iff, not_or]

end PlainAddress

namespace ExecutorSettings

open PlainAddress (localHosts IsLookalike)

variable {options : ExecutorOptions} {env : Environment} {settings : ExecutorSettings}

theorem load_url (h : load options env = .ok settings) : settings.url = options.address env := by
  unfold load at h
  obtain ⟨interval, _, h⟩ := exists_of_bind_eq_ok h
  have hlast : ∀ limit, (do
      let delay ← numberOr options.reconnectDelay env "RECONNECT_DELAY" "2.0"
      return ⟨options.address env, interval, limit, delay⟩) = Except.ok settings →
        settings.url = options.address env := by
    intro limit h
    obtain ⟨delay, _, h⟩ := exists_of_bind_eq_ok h
    exact congrArg url (Except.ok.inj h).symm
  -- The count of reconnects is read only when it is not given.
  split at h
  next => exact hlast _ h
  next =>
    obtain ⟨limit, _, h⟩ := exists_of_bind_eq_ok h
    exact hlast limit h

theorem plainRemote_mem_warnings_iff (settings : ExecutorSettings) (hasDocument : Bool) :
    .plainRemote ∈ settings.warnings hasDocument ↔ isPlainRemote settings.url = true := by
  unfold warnings
  cases hasDocument <;> cases isPlainRemote settings.url <;> decide

/-- An executor with an address without encryption warns just if the host is neither this machine
nor a lookalike. So the warning tells other machines from this one exactly where the host is no
lookalike. -/
theorem remote_flagged_unless_lookalike {a : PlainAddress}
    (hload : load options env = .ok settings) (haddress : options.address env = a.text)
    (hasDocument : Bool) :
    (.plainRemote ∈ settings.warnings hasDocument ↔
      a.host ∉ localHosts ∧ ¬ IsLookalike a.host) ∧
    ((.plainRemote ∈ settings.warnings hasDocument ↔ a.host ∉ localHosts) ↔
      ¬ IsLookalike a.host) := by
  have hflagged : .plainRemote ∈ settings.warnings hasDocument ↔
      a.host ∉ localHosts ∧ ¬ IsLookalike a.host := by
    rw [plainRemote_mem_warnings_iff, load_url hload, haddress, a.isPlainRemote_text]
  refine ⟨hflagged, fun hright halike => ?_, fun hnot => ?_⟩
  · exact (hflagged.mp (hright.mpr halike.not_mem)).2 halike
  · rw [hflagged, and_iff_left hnot]

/-- The machine at the next address is another one, and there is a warning. -/
theorem remote_flagged_unless_lookalike_next :
    let a : PlainAddress := ⟨"127.0.0.2", some "8788", "/executor/ws", Or.inr (by decide)⟩
    ∃ settings, load (.ofUrl a.text) .empty = .ok settings ∧
      (ExecutorOptions.ofUrl a.text).address .empty = a.text ∧
        .plainRemote ∈ settings.warnings true := by
  intro a
  have hload : load (.ofUrl a.text) .empty = .ok ⟨a.text, .real 30, .int 5, .real 2⟩ := by rfl
  have haddress : (ExecutorOptions.ofUrl a.text).address .empty = a.text := by decide +kernel
  have hapart : ¬ ∃ name ∈ localHosts, Text.startsWith a.host name = true := by decide +kernel
  rw [PlainAddress.startsWith_localHost_iff, not_or] at hapart
  exact ⟨_, hload, haddress,
    (remote_flagged_unless_lookalike hload haddress true).1.mpr hapart⟩

/-- The name of another machine may begin with that of this one. Then there is no warning. -/
theorem lookalike_not_flagged :
    let a : PlainAddress := ⟨"localhost.example.com", some "8788", "/executor/ws",
      Or.inr (by decide)⟩
    ∃ settings, load (.ofUrl a.text) .empty = .ok settings ∧ a.host ∉ localHosts ∧
      .plainRemote ∉ settings.warnings true := by
  intro a
  have hload : load (.ofUrl a.text) .empty = .ok ⟨a.text, .real 30, .int 5, .real 2⟩ := by rfl
  exact ⟨_, hload, by decide +kernel, by decide +kernel⟩

end ExecutorSettings

end DesignBridge
