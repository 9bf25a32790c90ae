import PatternRouter.Program
import PatternRouter.Proofs.Http.Dependence

/-!
# Settings that are accepted

The validation, the server and the start of the program each look at the name of the credential
field or at the address for metrics, under the switches that turn them off. What the validation lets
through is of use to the other two, also when the command line replaces the address of the listener,
which is not looked at again.

The module introduces:

* `Settings.Violates` and `Settings.possibleFaults` — what a fault says of settings, and the faults
  in the order in which they are reported;
* `Settings.Accepted` — the settings that are taken from a text, and the default ones;
* `Settings.Safe` — what the server and the program need of settings.

The main result is `Program.settings_safe`.
-/

namespace PatternRouter

namespace Settings

/-- What a fault says of settings. -/
def Violates (settings : Settings) : SettingsFault → Prop
  | .bindAddress address =>
    settings.listener.bindAddress = address ∧ Net.SocketAddress.parse? address = none
  | .zeroRequestTimeout => settings.timeouts.requestSeconds = 0
  | .identityHeader name =>
    settings.identity.header = name ∧ settings.identity.enabled = true ∧
      Http.HeaderName.parse? name = none
  | .metricsAddress address =>
    settings.observability.metricsAddress = address ∧
      settings.observability.metricsEnabled = true ∧ Net.SocketAddress.parse? address = none

/-- All that could be wrong with settings, in the order of the sections. -/
def possibleFaults (settings : Settings) : List SettingsFault :=
  [.bindAddress settings.listener.bindAddress, .zeroRequestTimeout,
    .identityHeader settings.identity.header,
    .metricsAddress settings.observability.metricsAddress]

/-- Settings that are taken from a text, or the default ones. -/
def Accepted (settings : Settings) : Prop :=
  settings = {} ∨ ∃ text, parse text = .ok settings

/-- The server reads credentials exactly if clients are to be identified, and the program never
finds the address for metrics to be none. -/
structure Safe (settings : Settings) : Prop where
  credentialHeader : ∀ router,
    (Http.Server.ofSettings settings router).credentialHeader.isSome ↔
      settings.identity.enabled = true
  metrics : ∀ offersMetrics address,
    .metricsAddressInvalid address ∉ Program.metricsEvents offersMetrics settings
  /-- Of a whole run, with what the requests log. -/
  run : ∀ certificates system served, (∀ address, .metricsAddressInvalid address ∉ served) →
    ∀ address,
      .metricsAddressInvalid address ∉ (Program.run certificates system settings served).events

variable {settings base : Settings}

/-! ## The validation -/

/-- A check reports its own fault or nothing. -/
theorem mem_ite_singleton_iff {p : Prop} [Decidable p] {fault own : SettingsFault} :
    fault ∈ (if p then [own] else []) ↔ p ∧ fault = own := by
  split <;> simp [*]

theorem ite_singleton_sublist (p : Prop) [Decidable p] (fault : SettingsFault) :
    (if p then [fault] else []).Sublist [fault] := by
  split
  · exact .refl [fault]
  · exact List.nil_sublist [fault]

theorem bindAddressFault_eq (settings : Settings) :
    settings.bindAddressFault =
      if Net.SocketAddress.parse? settings.listener.bindAddress = none then
        [.bindAddress settings.listener.bindAddress]
      else [] := by
  rw [bindAddressFault]
  cases Net.SocketAddress.parse? settings.listener.bindAddress <;> simp

/-- What is so of the text that was looked at is so of the text that is reported. -/
theorem and_eq_iff_eq_and {own reported : String} (p : String → Prop) :
    p own ∧ reported = own ↔ own = reported ∧ p reported := by
  constructor
  · rintro ⟨h, rfl⟩
    exact ⟨rfl, h⟩
  · rintro ⟨rfl, h⟩
    exact ⟨h, rfl⟩

/-- The faults that are reported are those that say what is so. -/
theorem mem_validate_iff {fault : SettingsFault} :
    fault ∈ settings.validate ↔ settings.Violates fault := by
  simp only [validate, List.mem_append, bindAddressFault_eq, timeoutFault, identityHeaderFault,
    metricsAddressFault, mem_ite_singleton_iff, Option.isNone_iff_eq_none]
  -- Only the check of the same kind can report a fault.
  cases fault with
  | bindAddress address =>
    simp only [Violates, SettingsFault.bindAddress.injEq, reduceCtorEq, and_false, or_false]
    exact and_eq_iff_eq_and fun text => Net.SocketAddress.parse? text = none
  | zeroRequestTimeout => simp [Violates]
  | identityHeader name =>
    simp only [Violates, SettingsFault.identityHeader.injEq, reduceCtorEq, and_false, or_false,
      false_or]
    exact and_eq_iff_eq_and fun text =>
      settings.identity.enabled = true ∧ Http.HeaderName.parse? text = none
  | metricsAddress address =>
    simp only [Violates, SettingsFault.metricsAddress.injEq, reduceCtorEq, and_false, false_or]
    exact and_eq_iff_eq_and fun text =>
      settings.observability.metricsEnabled = true ∧ Net.SocketAddress.parse? text = none

/-- The faults are reported in the order of the sections, and each at most once. -/
theorem validate_sublist (settings : Settings) :
    settings.validate.Sublist settings.possibleFaults := by
  rw [validate, bindAddressFault_eq]
  exact (((ite_singleton_sublist _ _).append (ite_singleton_sublist _ _)).append
    (ite_singleton_sublist _ _)).append (ite_singleton_sublist _ _)

theorem parse_of_ofText? {text : String} (h : ofText? text = some settings) :
    parse text =
      if settings.validate = [] then .ok settings else .error (.invalid settings.validate) := by
  rw [parse, h]

theorem parse_eq_ok_iff_of_ofText? {text : String} (h : ofText? text = some settings) :
    parse text = .ok settings ↔
      (Net.SocketAddress.parse? settings.listener.bindAddress).isSome ∧
      settings.timeouts.requestSeconds ≠ 0 ∧
      ((Http.HeaderName.parse? settings.identity.header).isSome ∨
        settings.identity.enabled = false) ∧
      ((Net.SocketAddress.parse? settings.observability.metricsAddress).isSome ∨
        settings.observability.metricsEnabled = false) := by
  rw [parse_eq_ok_iff, validate_eq_nil_iff, and_iff_right h, ← Bool.not_eq_true,
    ← Bool.not_eq_true, or_comm, ← Decidable.imp_iff_not_or, or_comm, ← Decidable.imp_iff_not_or]

/-! ## What is accepted -/

theorem Accepted.validate_eq_nil (h : base.Accepted) : base.validate = [] := by
  rcases h with rfl | ⟨text, htext⟩
  · decide
  · exact (parse_eq_ok_iff.1 htext).2

/-- The server has a name to read credentials under if the name that is set is one. -/
theorem isSome_credentialHeader_iff
    (hheader : settings.identity.enabled = true →
      (Http.HeaderName.parse? settings.identity.header).isSome) (router : Router) :
    (Http.Server.ofSettings settings router).credentialHeader.isSome ↔
      settings.identity.enabled = true := by
  constructor
  · intro hsome
    obtain ⟨name, hname⟩ := Option.isSome_iff_exists.1 hsome
    exact (Http.credentialHeaderOf_eq_some_iff.1 hname).1
  · intro henabled
    obtain ⟨name, hname⟩ := Option.isSome_iff_exists.1 (hheader henabled)
    exact Option.isSome_iff_exists.2
      ⟨name, Http.credentialHeaderOf_eq_some_iff.2 ⟨henabled, hname⟩⟩

/-- The address for metrics is not found to be none if it is one or metrics are not offered. -/
theorem not_mem_metricsEvents
    (haddress : settings.observability.metricsEnabled = true →
      (Net.SocketAddress.parse? settings.observability.metricsAddress).isSome)
    (offersMetrics : Net.SocketAddress → Bool) (address : String) :
    .metricsAddressInvalid address ∉ Program.metricsEvents offersMetrics settings := by
  unfold Program.metricsEvents
  split
  · next henabled =>
    obtain ⟨own, hown⟩ := Option.isSome_iff_exists.1 (haddress henabled)
    rw [hown]
    -- Whether metrics can be offered there is for the system to say, and logged as another event.
    show _ ∉ if offersMetrics own then _ else _
    split <;> simp
  · exact List.not_mem_nil

theorem not_mem_openingEvents (certificates : Certificate.Reader) (settings : Settings)
    (address : String) :
    .metricsAddressInvalid address ∉ Program.openingEvents certificates settings := by
  unfold Program.openingEvents RouterBuilder.buildEvents
  split <;> simp

/-- Settings that agree with accepted ones in what the server and the program read are safe. -/
theorem Accepted.safe (h : base.Accepted) (hidentity : settings.identity = base.identity)
    (hobservability : settings.observability = base.observability) : settings.Safe := by
  obtain ⟨-, -, hheader, haddress⟩ := (validate_eq_nil_iff base).1 h.validate_eq_nil
  rw [← hidentity] at hheader
  rw [← hobservability] at haddress
  have hmetrics := not_mem_metricsEvents haddress
  refine ⟨isSome_credentialHeader_iff hheader, hmetrics, ?_⟩
  intro certificates system served hserved address
  have hopening := not_mem_openingEvents certificates settings address
  -- A run ends with the table, with the address of the listener, or when it is told to.
  unfold Program.run
  split
  · exact hopening
  · split
    · simp [hopening, hmetrics]
    · simp [hopening, hmetrics, hserved, Program.listeningEvents, Program.closingEvents]

end Settings

namespace Program

variable {file : String → Except FileFault (List UInt8)} {options : CommandLine.Options}
  {settings base : Settings}

/-- Settings that are loaded from a file are those of its text. -/
theorem accepted_of_load {content : Except FileFault (List UInt8)}
    (h : Settings.load content = .ok settings) : settings.Accepted := by
  unfold Settings.load at h
  split at h
  · nomatch h
  · split at h
    · next text _ => exact .inr ⟨text, h⟩
    · nomatch h

theorem accepted_of_config (hdefault : options.config = none → settings = {})
    (hload : ∀ name, options.config = some name → Settings.load (file name) = .ok settings) :
    settings.Accepted := by
  rcases hconfig : options.config with _ | name
  · exact .inl (hdefault hconfig)
  · exact accepted_of_load (hload name hconfig)

/-- The settings of a run are those of its file or the default ones, but for the address on the
command line. -/
theorem settings_eq_ok_iff :
    Program.settings file options = .ok settings ↔
      ∃ base : Settings, (options.config = none → base = {}) ∧
        (∀ name, options.config = some name → Settings.load (file name) = .ok base) ∧
        settings = (options.bind.map base.withBindAddress).getD base := by
  rw [Program.settings]
  cases options.config with
  | none => cases options.bind <;> simp [bind, Except.bind, pure, Except.pure, eq_comm]
  | some name =>
    -- Only the file can fail; the address on the command line is put in afterwards.
    rcases hload : Settings.load (file name) with error | own
    · simp [hload, bind, Except.bind]
    · cases options.bind <;> simp [hload, bind, Except.bind, pure, Except.pure, eq_comm]

/-- Settings are accepted exactly if they fulfil all four conditions, and otherwise everything that
is wrong with them is reported, in the order of the sections and with the text at fault. What is
accepted is safe, also with another address for the listener, and the settings of every run are. -/
theorem settings_safe :
    (∀ text settings, Settings.ofText? text = some settings →
      (Settings.parse text = .ok settings ↔
        (Net.SocketAddress.parse? settings.listener.bindAddress).isSome ∧
        settings.timeouts.requestSeconds ≠ 0 ∧
        ((Http.HeaderName.parse? settings.identity.header).isSome ∨
          settings.identity.enabled = false) ∧
        ((Net.SocketAddress.parse? settings.observability.metricsAddress).isSome ∨
          settings.observability.metricsEnabled = false)) ∧
      (Settings.parse text ≠ .ok settings → ∃ faults,
        Settings.parse text = .error (.invalid faults) ∧
        faults.Sublist settings.possibleFaults ∧
        (∀ fault, fault ∈ faults ↔ settings.Violates fault) ∧
        (SettingsError.invalid faults).message =
          "Validation failed: " ++ ", ".intercalate (faults.map SettingsFault.message))) ∧
    (∀ base : Settings, base.Accepted →
      base.Safe ∧ ∀ address, Settings.Safe { base with listener.bindAddress := address }) ∧
    (∀ file options settings, Program.settings file options = .ok settings ↔
      ∃ base : Settings, base.Accepted ∧
        (options.config = none → base = {}) ∧
        (∀ name, options.config = some name → Settings.load (file name) = .ok base) ∧
        (options.bind = none → settings = base) ∧
        ∀ address, options.bind = some address →
          settings = { base with listener.bindAddress := address }) ∧
    ∀ file options settings, Program.settings file options = .ok settings → settings.Safe := by
  refine ⟨?_, ?_, ?_, ?_⟩
  · intro text settings htext
    refine ⟨Settings.parse_eq_ok_iff_of_ofText? htext, ?_⟩
    intro hrefused
    refine ⟨settings.validate, ?_, settings.validate_sublist,
      fun _ => Settings.mem_validate_iff, rfl⟩
    rw [Settings.parse_of_ofText? htext] at hrefused ⊢
    split at hrefused
    · exact absurd rfl hrefused
    · next hfaults => rw [if_neg hfaults]
  · intro base haccepted
    exact ⟨haccepted.safe rfl rfl, fun _ => haccepted.safe rfl rfl⟩
  · intro file options settings
    rw [settings_eq_ok_iff]
    refine exists_congr fun base => ?_
    constructor
    · rintro ⟨hdefault, hload, rfl⟩
      refine ⟨accepted_of_config hdefault hload, hdefault, hload, ?_, ?_⟩
      · intro hnone
        rw [hnone]
        rfl
      · intro address haddress
        rw [haddress]
        rfl
    · rintro ⟨-, hdefault, hload, hnone, haddress⟩
      refine ⟨hdefault, hload, ?_⟩
      rcases hbind : options.bind with _ | address
      · exact hnone hbind
      · exact haddress address hbind
  · intro file options settings hsettings
    obtain ⟨base, hdefault, hload, rfl⟩ := settings_eq_ok_iff.1 hsettings
    cases options.bind <;> exact (accepted_of_config hdefault hload).safe rfl rfl

/-- A text with two things wrong, and a run with an address on its command line that is none. -/
theorem settings_safe_two_faults :
    (∃ faults, Settings.parse "timeouts.request_secs = 0\nidentity.header = \"bad header\"\n" =
        .error (.invalid faults) ∧
      .zeroRequestTimeout ∈ faults ∧ .identityHeader "bad header" ∈ faults ∧
      .bindAddress "127.0.0.1:8080" ∉ faults) ∧
    ∃ settings, Program.settings (fun _ => .error .notText) { bind := some "elsewhere" } =
      .ok settings ∧ settings.listener.bindAddress = "elsewhere" ∧ settings.Safe := by
  obtain ⟨hparse, -, -, hrun⟩ := settings_safe
  have htext : Settings.ofText? "timeouts.request_secs = 0\nidentity.header = \"bad header\"\n" =
      some { timeouts := ⟨0⟩, identity := ⟨true, "bad header"⟩ } := by decide +kernel
  obtain ⟨haccepted, hrefused⟩ := hparse _ _ htext
  obtain ⟨faults, hfaults, -, hmem, -⟩ :=
    hrefused fun hok => absurd rfl (haccepted.1 hok).2.1
  have hname : Http.HeaderName.parse? "bad header" = none := by decide
  refine ⟨⟨faults, hfaults, (hmem _).2 rfl, (hmem _).2 ⟨rfl, rfl, hname⟩, ?_⟩, ?_⟩
  · intro hbind
    have hnone := ((hmem _).1 hbind).2
    exact absurd hnone (by decide)
  · have hsettings : Program.settings (fun _ => .error .notText) { bind := some "elsewhere" } =
        .ok (Settings.withBindAddress {} "elsewhere") := rfl
    exact ⟨_, hsettings, rfl, hrun _ _ _ hsettings⟩

end Program

end PatternRouter
