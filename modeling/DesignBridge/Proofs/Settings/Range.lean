import DesignBridge.Proofs.Number.Order
import DesignBridge.Settings.Bridge

/-! # The range of the settings

Settings are loaded when every value can be read and those that have a range are in it. A port is
always in its range then. A reply timeout is more than zero, or it is not a number: that is compared
with zero in vain. Values that cannot be read are reported all at once, in the order in which the
settings are declared.
-/

namespace DesignBridge

namespace Setting

/-- Whether a text can be read as the value of a setting. Only two settings are numbers. -/
def reads (setting : Setting) (s : String) : Bool :=
  if setting = port then (Numeral.int? s).isOk
  else if setting = taskTimeout then (Numeral.real? s).isOk
  else true

theorem reads_port (s : String) : port.reads s = (Numeral.int? s).isOk := rfl

theorem reads_taskTimeout (s : String) : taskTimeout.reads s = (Numeral.real? s).isOk := by
  unfold reads
  rw [if_neg (by decide), if_pos rfl]

/-- A setting that is no number takes any text. -/
theorem reads_of_ne {setting : Setting} (hport : setting ≠ port) (htimeout : setting ≠ taskTimeout)
    (s : String) : setting.reads s = true := by
  unfold reads
  rw [if_neg hport, if_neg htimeout]

end Setting

namespace BridgeSettings

/-- The variables whose values cannot be read, with these values, of all settings in the order in
which they are declared. -/
def unread (env : Environment) : List (String × String) :=
  ((Setting.needed ++ Setting.others).filter fun setting => !setting.reads (setting.raw env)).map
    fun setting => (setting.variableName, setting.raw env)

/-- The settings that a port and a reply timeout make with the values of the other variables. -/
def withNumbers (env : Environment) (port : Int) (taskTimeout : Float) : BridgeSettings where
  host := Setting.host.raw env
  port
  logLevel := Text.upper (Setting.logLevel.raw env)
  taskTimeout
  debug := flag (Setting.debug.raw env)
  corsOrigins := origins (Setting.corsOrigins.raw env)

theorem unread_eq (env : Environment) :
    unread env = ([Setting.port, .taskTimeout].filter
      fun setting => !setting.reads (setting.raw env)).map
        fun setting => (setting.variableName, setting.raw env) := by
  have htext : ∀ setting ∈ [Setting.host, .logLevel, .debug, .corsOrigins],
      setting.reads (setting.raw env) = true := by
    have hne : ∀ setting ∈ [Setting.host, .logLevel, .debug, .corsOrigins],
        setting ≠ .port ∧ setting ≠ .taskTimeout := by decide
    exact fun setting hsetting =>
      Setting.reads_of_ne (hne setting hsetting).1 (hne setting hsetting).2 _
  simp only [List.mem_cons, List.not_mem_nil, or_false, forall_eq_or_imp, forall_eq] at htext
  obtain ⟨hhost, hlevel, hdebug, horigins⟩ := htext
  unfold unread Setting.needed Setting.others
  simp only [List.cons_append, List.nil_append, List.filter_cons, List.filter_nil, hhost, hlevel,
    hdebug, horigins, Bool.not_true, Bool.false_eq_true, if_false]

theorem unreadable_eq (env : Environment) : unreadable env = unread env := by
  rw [unread_eq]
  unfold unreadable
  simp only [List.filter_cons, List.filter_nil, Setting.reads_port, Setting.reads_taskTimeout]
  cases Numeral.int? (Setting.port.raw env) <;>
  cases Numeral.real? (Setting.taskTimeout.raw env) <;>
    rfl

theorem unread_eq_nil_iff {env : Environment} : unread env = [] ↔ ∃ port taskTimeout,
    Numeral.int? (Setting.port.raw env) = .ok port ∧
      Numeral.real? (Setting.taskTimeout.raw env) = .ok taskTimeout := by
  rw [unread_eq]
  simp only [List.filter_cons, List.filter_nil, Setting.reads_port, Setting.reads_taskTimeout]
  cases Numeral.int? (Setting.port.raw env) <;>
  cases Numeral.real? (Setting.taskTimeout.raw env) <;>
    simp [Except.isOk, Except.toBool]

theorem load_of_read {env : Environment} {port : Int} {taskTimeout : Float}
    (hport : Numeral.int? (Setting.port.raw env) = .ok port)
    (htimeout : Numeral.real? (Setting.taskTimeout.raw env) = .ok taskTimeout) :
    load env = check (withNumbers env port taskTimeout) := by
  unfold load read
  rw [hport, htimeout]
  rfl

theorem load_of_unread {env : Environment} (h : unread env ≠ []) :
    load env = .error (.unreadable (unread env)) := by
  unfold load read
  rw [unreadable_eq]
  split
  next port taskTimeout hport htimeout =>
    exact absurd (unread_eq_nil_iff.mpr ⟨port, taskTimeout, hport, htimeout⟩) h
  next => rfl

theorem check_eq_ok_iff {settings loaded : BridgeSettings} :
    check settings = .ok loaded ↔ loaded = settings ∧ 1 ≤ settings.port ∧ settings.port ≤ 65535 ∧
      (0 < settings.taskTimeout ∨ settings.taskTimeout.isNaN = true) := by
  rw [← not_le_zero_iff_pos_or_isNaN]
  unfold check
  split
  next hlow => simp [hlow]
  next hlow =>
    split
    next hrange =>
      rw [Except.ok.injEq, eq_comm, and_iff_left_of_imp fun _ => ⟨by omega, by omega, hlow⟩]
    next hrange =>
      refine iff_of_false (fun h => by cases h) fun h => hrange ⟨?_, ?_⟩
      · exact h.2.1
      · have := h.2.2.1
        omega

/-- Settings are loaded exactly from an environment whose numbers can be read, with a port from 1 to
65535 and a reply timeout that is more than zero or not a number. Values that cannot be read are
reported together, and no others. -/
theorem loaded_settings_in_range (env : Environment) :
    (∀ settings, load env = .ok settings ↔ ∃ port taskTimeout,
      Numeral.int? (Setting.port.raw env) = .ok port ∧
      Numeral.real? (Setting.taskTimeout.raw env) = .ok taskTimeout ∧
      1 ≤ port ∧ port ≤ 65535 ∧ (0 < taskTimeout ∨ taskTimeout.isNaN = true) ∧
      settings = withNumbers env port taskTimeout) ∧
    (unread env ≠ [] → ∃ error, load env = .error error ∧
      error.message = "Invalid configuration values: " ++ Text.joinWith ", "
        ((unread env).map fun (name, value) => name ++ "=" ++ Text.quoted value)) := by
  refine ⟨fun settings => ⟨fun h => ?_, ?_⟩, fun h => ⟨_, load_of_unread h, rfl⟩⟩
  · by_cases hunread : unread env = []
    · obtain ⟨port, taskTimeout, hport, htimeout⟩ := unread_eq_nil_iff.mp hunread
      rw [load_of_read hport htimeout, check_eq_ok_iff] at h
      obtain ⟨rfl, hlow, hhigh, hpositive⟩ := h
      exact ⟨port, taskTimeout, hport, htimeout, hlow, hhigh, hpositive, rfl⟩
    · rw [load_of_unread hunread] at h
      cases h
  · rintro ⟨port, taskTimeout, hport, htimeout, hlow, hhigh, hpositive, rfl⟩
    rw [load_of_read hport htimeout, check_eq_ok_iff]
    exact ⟨rfl, hlow, hhigh, hpositive⟩

/-- Without any variables the settings are loaded. -/
theorem default_settings_loaded : ∃ settings, load Table.empty = .ok settings ∧
    settings.port = 8788 ∧ 0 < settings.taskTimeout := by
  have hport : Numeral.int? (Setting.port.raw Table.empty) = .ok 8788 := by rfl
  have htimeout : Numeral.real? (Setting.taskTimeout.raw Table.empty) = .ok 10 := by rfl
  exact ⟨_, ((loaded_settings_in_range Table.empty).1 _).mpr
    ⟨8788, 10, hport, htimeout, by decide, by decide, Or.inl (by decide), rfl⟩, rfl, by decide⟩

/-- A reply timeout that is not a number is loaded, though it is not more than zero. -/
theorem nan_timeout_loaded :
    let env : Environment := Table.ofList [("TASK_TIMEOUT", "nan")]
    ∃ settings, load env = .ok settings ∧ ¬ 0 < settings.taskTimeout := by
  intro env
  have hport : Setting.port.raw env = "8788" := by decide +kernel
  have htimeout : Setting.taskTimeout.raw env = "nan" := by decide +kernel
  have hint : Numeral.int? "8788" = .ok 8788 := by rfl
  have hreal : Numeral.real? "nan" = .ok (0.0 / 0.0) := by rfl
  refine ⟨withNumbers env 8788 (0.0 / 0.0), ?_, by decide⟩
  rw [load_of_read (by rw [hport, hint]) (by rw [htimeout, hreal]), check_eq_ok_iff]
  exact ⟨rfl, by decide, by decide, Or.inr (by decide)⟩

end BridgeSettings

end DesignBridge
