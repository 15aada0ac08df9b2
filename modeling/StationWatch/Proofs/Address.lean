import StationWatch.Command.Run

/-!
# Where the address of the service comes from

The address can be given by an option or by a variable of the environment.  An option that is given
takes the place of the variable, but only if the environment holds an address of its own and is in
order without the option.  Otherwise the option stands alone: all that the environment says about
the connection is left out, and so is what is wrong with it.

## Main definitions

* `BridgeSettings.Usable` — the settings that a check lets pass.
* `BridgeSettings.loadAt` — the settings of an environment at a given address.
* `Command.override` — settings with interval and time limit from the options.
* `Command.Refused` — options whose interval or time limit no check lets pass.
* `Command.Unheeded` — settings that are lost without a difference.

## Main results

* `check_eq_ok_iff` — a check lets the usable settings pass, unchanged.
* `load_setAddress` — an environment with its address set.
* `bridgeSettings_eq_ok_iff` — the settings in force.
* `bridgeSettings_address` — when option and variable come to the same.

## References

`SPEC_FULL.md`, sections 10.3 and 10.6, on the address among the options and in the environment.
-/

namespace StationWatch

namespace BridgeSettings

/-- Settings that a connection can be made with. -/
structure Usable (s : BridgeSettings) : Prop where
  baseUrl : s.baseUrl ≠ ""
  refreshInterval : 0 < s.refreshInterval
  /-- What is no number is not refused. -/
  timeout : ¬ s.timeout ≤ 0.0
  attempts : 1 ≤ s.attempts

/-- A check lets the usable settings pass, unchanged. -/
theorem check_eq_ok_iff {s t : BridgeSettings} : check s = .ok t ↔ s.Usable ∧ t = s := by
  constructor
  · intro h
    unfold check at h
    split at h
    · cases h
    · rename_i hurl
      split at h
      · cases h
      · rename_i hinterval
        split at h
        · cases h
        · rename_i htimeout
          split at h
          · cases h
          · rename_i hattempts
            cases h
            have hempty : s.baseUrl ≠ "" := fun hs => hurl (by rw [hs]; rfl)
            exact ⟨⟨hempty, by omega, htimeout, by omega⟩, rfl⟩
  · rintro ⟨⟨hurl, hinterval, htimeout, hattempts⟩, rfl⟩
    have hempty : ¬ t.baseUrl.isEmpty = true := by simpa using hurl
    rw [check, if_neg hempty, if_neg (by omega), if_neg htimeout, if_neg (by omega)]

theorem Usable.check {s : BridgeSettings} (h : s.Usable) : s.check = .ok s :=
  check_eq_ok_iff.2 ⟨h, rfl⟩

/-- Usable settings stay usable at another address. -/
theorem Usable.at {s : BridgeSettings} (h : s.Usable) {url : RawText} (hurl : url ≠ "") :
    Usable { s with baseUrl := url } :=
  ⟨hurl, h.refreshInterval, h.timeout, h.attempts⟩

/-- The usual settings are usable at any address. -/
theorem usable_usual {url : RawText} (hurl : url ≠ "") : Usable { baseUrl := url } :=
  ⟨hurl, (by decide : (0 : Int) < 60), (by decide : ¬ (10.0 : Float) ≤ 0.0), Int.le_refl 1⟩

/-! ### Settings of an environment -/

/-- The settings of an environment at a given address. -/
def loadAt (env : Environment) (baseUrl : RawText) : Except SettingsFault BridgeSettings := do
  let refreshInterval ← numberSetting env "REFRESH_INTERVAL" 60 RawText.integer?
  let timeout ← numberSetting env "TIMEOUT" 10.0 RawText.real?
  let attempts ← numberSetting env "RETRY_ATTEMPTS" 1 RawText.integer?
  check
    { baseUrl, refreshInterval, timeout, attempts
      username := nonEmpty? env "USERNAME"
      password := nonEmpty? env "PASSWORD" }

/-- What the settings of an environment at an address are read from. -/
theorem loadAt_eq_ok_iff {env : Environment} {url : RawText} {s : BridgeSettings} :
    loadAt env url = .ok s ↔ s.Usable ∧ s.baseUrl = url ∧
      numberSetting env "REFRESH_INTERVAL" 60 RawText.integer? = .ok s.refreshInterval ∧
      numberSetting env "TIMEOUT" 10.0 RawText.real? = .ok s.timeout ∧
      numberSetting env "RETRY_ATTEMPTS" 1 RawText.integer? = .ok s.attempts ∧
      s.username = nonEmpty? env "USERNAME" ∧ s.password = nonEmpty? env "PASSWORD" := by
  rw [loadAt]
  cases numberSetting env "REFRESH_INTERVAL" 60 RawText.integer? with
  | error fault => simp [bind, Except.bind]
  | ok refreshInterval =>
    cases numberSetting env "TIMEOUT" 10.0 RawText.real? with
    | error fault => simp [bind, Except.bind]
    | ok timeout =>
      cases numberSetting env "RETRY_ATTEMPTS" 1 RawText.integer? with
      | error fault => simp [bind, Except.bind]
      | ok attempts =>
        simp only [bind, Except.bind, check_eq_ok_iff, Except.ok.injEq]
        constructor
        · rintro ⟨husable, rfl⟩
          exact ⟨husable, rfl, rfl, rfl, rfl, rfl, rfl⟩
        · rintro ⟨husable, rfl, rfl, rfl, rfl, huser, hpassword⟩
          rw [← huser, ← hpassword]
          exact ⟨husable, rfl⟩

/-- Another address changes nothing else. -/
theorem loadAt_eq_ok_at {env : Environment} {url other : RawText} {s : BridgeSettings}
    (h : loadAt env url = .ok s) (hother : other ≠ "") :
    loadAt env other = .ok { s with baseUrl := other } := by
  obtain ⟨husable, -, hrest⟩ := loadAt_eq_ok_iff.1 h
  exact loadAt_eq_ok_iff.2 ⟨husable.at hother, rfl, hrest⟩

end BridgeSettings

/-! ### The variable of the address -/

/-- The environment with its address set. -/
def Environment.setAddress (env : Environment) (url : RawText) : Environment :=
  env.set (settingStem ++ "BASE_URL") url

theorem setting?_setAddress (env : Environment) (url : RawText) :
    setting? (env.setAddress url) "BASE_URL" = some url :=
  Environment.get?_set_self _ _ _

theorem setting?_setAddress_of_ne (env : Environment) (url : RawText) (name : String)
    (h : settingStem ++ "BASE_URL" ≠ settingStem ++ name) :
    setting? (env.setAddress url) name = setting? env name :=
  Environment.get?_set_of_ne url env h

namespace BridgeSettings

theorem loadAt_setAddress (env : Environment) (url other : RawText) :
    loadAt (env.setAddress url) other = loadAt env other := by
  have hinterval := setting?_setAddress_of_ne env url "REFRESH_INTERVAL" (by decide)
  have htimeout := setting?_setAddress_of_ne env url "TIMEOUT" (by decide)
  have hattempts := setting?_setAddress_of_ne env url "RETRY_ATTEMPTS" (by decide)
  have husername := setting?_setAddress_of_ne env url "USERNAME" (by decide)
  have hpassword := setting?_setAddress_of_ne env url "PASSWORD" (by decide)
  simp only [loadAt, numberSetting, nonEmpty?, hinterval, htimeout, hattempts, husername,
    hpassword]

/-- An environment with its address set. -/
theorem load_setAddress (env : Environment) {url : RawText} (hurl : url ≠ "") :
    load (env.setAddress url) = loadAt env url := by
  have haddress : nonEmpty? (env.setAddress url) "BASE_URL" = some url := by
    simp [nonEmpty?, setting?_setAddress, hurl]
  rw [← loadAt_setAddress env url url, load, haddress]
  rfl

/-- An environment that is in order has an address of its own. -/
theorem load_eq_ok_iff {env : Environment} {s : BridgeSettings} :
    load env = .ok s ↔ ∃ url, nonEmpty? env "BASE_URL" = some url ∧ loadAt env url = .ok s := by
  rw [load]
  cases nonEmpty? env "BASE_URL" with
  | none => simp
  | some url => simp [loadAt]

/-- What an environment in order is read to. -/
theorem usable_of_load {env : Environment} {s : BridgeSettings} (h : load env = .ok s) :
    s.Usable := by
  obtain ⟨url, -, hat⟩ := load_eq_ok_iff.1 h
  exact (loadAt_eq_ok_iff.1 hat).1

end BridgeSettings

namespace Command

/-! ### Options -/

/-- The settings with interval and time limit from the options that give them. -/
def override (o : Options) (s : BridgeSettings) : BridgeSettings :=
  { s with
    refreshInterval := o.interval.getD s.refreshInterval
    timeout := o.timeout.getD s.timeout }

/-- The options give an interval or a time limit that no check lets pass. -/
def Refused (o : Options) : Prop :=
  (∃ seconds, o.interval = some seconds ∧ seconds ≤ 0) ∨
    ∃ seconds, o.timeout = some seconds ∧ seconds ≤ 0.0

/-- Of usable settings an option can only spoil its own. -/
theorem usable_override_iff {o : Options} {s : BridgeSettings} (h : s.Usable) :
    (override o s).Usable ↔ ¬ Refused o := by
  constructor
  · rintro hover (⟨seconds, hinterval, hle⟩ | ⟨seconds, htimeout, hle⟩)
    · have hpos := hover.refreshInterval
      simp only [override, hinterval, Option.getD_some] at hpos
      omega
    · have hnot := hover.timeout
      simp only [override, htimeout, Option.getD_some] at hnot
      exact hnot hle
  · intro hrefused
    refine ⟨h.baseUrl, ?_, ?_, h.attempts⟩
    · cases hinterval : o.interval with
      | none => simpa [override, hinterval] using h.refreshInterval
      | some seconds =>
        have hnot : ¬ seconds ≤ 0 := fun hle => hrefused (.inl ⟨seconds, hinterval, hle⟩)
        simp only [override, hinterval, Option.getD_some]
        omega
    · cases htimeout : o.timeout with
      | none => simpa [override, htimeout] using h.timeout
      | some seconds =>
        simp only [override, htimeout, Option.getD_some]
        exact fun hle => hrefused (.inr ⟨seconds, htimeout, hle⟩)

theorem usable_of_baseSettings {o : Options} {env : Environment} {s : BridgeSettings}
    (h : baseSettings o env = .ok s) : s.Usable := by
  rw [baseSettings] at h
  cases hgiven : given o.baseUrl with
  | none =>
    simp only [hgiven] at h
    exact BridgeSettings.usable_of_load h
  | some url =>
    simp only [hgiven] at h
    split at h <;>
    · obtain ⟨husable, rfl⟩ := BridgeSettings.check_eq_ok_iff.1 h
      exact husable

/-- The settings in force: those before the override, if the options are not refused. -/
theorem bridgeSettings_eq_ok_iff {o : Options} {env : Environment} {t : BridgeSettings} :
    bridgeSettings o env = .ok t ↔
      ∃ s, baseSettings o env = .ok s ∧ ¬ Refused o ∧ t = override o s := by
  rw [bridgeSettings]
  cases hbase : baseSettings o env with
  | error fault => simp
  | ok s =>
    have husable := usable_of_baseSettings hbase
    simp only [Except.ok.injEq, exists_eq_left']
    split
    · -- nothing is overridden
      rename_i hnone
      obtain ⟨hinterval, htimeout⟩ : o.interval = none ∧ o.timeout = none := by simpa using hnone
      simp [Refused, override, hinterval, htimeout, eq_comm]
    · change BridgeSettings.check (override o s) = .ok t ↔ _
      rw [BridgeSettings.check_eq_ok_iff, usable_override_iff husable]

/-- Refused options leave no settings. -/
theorem toOption_bridgeSettings_of_refused {o : Options} (h : Refused o) (env : Environment) :
    (bridgeSettings o env).toOption = none := by
  cases hsettings : bridgeSettings o env with
  | error fault => rfl
  | ok t =>
    obtain ⟨-, -, hnot, -⟩ := bridgeSettings_eq_ok_iff.1 hsettings
    exact absurd h hnot

/-- Options that differ in nothing but the address override alike. -/
theorem bridgeSettings_congr {o o' : Options} {env env' : Environment}
    (hbase : baseSettings o env = baseSettings o' env') (hinterval : o.interval = o'.interval)
    (htimeout : o.timeout = o'.timeout) : bridgeSettings o env = bridgeSettings o' env' := by
  rw [bridgeSettings, bridgeSettings, hbase, hinterval, htimeout]

/-! ### Option and variable -/

/-- The settings of an environment that a run does without, unless they are the usual ones or
overridden. -/
structure Unheeded (o : Options) (s : BridgeSettings) : Prop where
  refreshInterval : o.interval = none → s.refreshInterval = 60
  timeout : o.timeout = none → s.timeout = 10.0
  attempts : s.attempts = 1
  username : s.username = none
  password : s.password = none

theorem unheeded_iff {o : Options} {s : BridgeSettings} :
    Unheeded o s ↔ override o s = override o { baseUrl := s.baseUrl } := by
  obtain ⟨baseUrl, refreshInterval, timeout, attempts, username, password⟩ := s
  simp only [override, BridgeSettings.mk.injEq, true_and]
  constructor
  · rintro ⟨hinterval, htimeout, rfl, rfl, rfl⟩
    refine ⟨?_, ?_, rfl, rfl, rfl⟩
    · cases h : o.interval with
      | none => exact hinterval h
      | some seconds => rfl
    · cases h : o.timeout with
      | none => exact htimeout h
      | some seconds => rfl
  · rintro ⟨hinterval, htimeout, rfl, rfl, rfl⟩
    refine ⟨fun h => ?_, fun h => ?_, rfl, rfl, rfl⟩
    · simpa [h] using hinterval
    · simpa [h] using htimeout

section

variable {o : Options} {env : Environment} {url : RawText}

/-- Before the override, an option for the address keeps the other settings of an environment that
is in order, and none of another one. -/
theorem baseSettings_option (hurl : url ≠ "") :
    baseSettings { o with baseUrl := some url } env =
      match BridgeSettings.load env with
      | .ok s => .ok { s with baseUrl := url }
      | .error _ => .ok { baseUrl := url } := by
  have hgiven : given (some url) = some url := by simp [given, hurl]
  simp only [baseSettings, hgiven]
  cases hload : BridgeSettings.load env with
  | error fault => exact (BridgeSettings.usable_usual hurl).check
  | ok s => exact ((BridgeSettings.usable_of_load hload).at hurl).check

/-- Before the override, the variable keeps the other settings of any environment. -/
theorem baseSettings_variable (hurl : url ≠ "") :
    baseSettings { o with baseUrl := none } (env.setAddress url) =
      BridgeSettings.loadAt env url := by
  rw [← BridgeSettings.load_setAddress env hurl]
  rfl

/-- An environment that is in order at its own address is so at any other. -/
theorem loadAt_of_load {s : BridgeSettings} (h : BridgeSettings.load env = .ok s)
    (hurl : url ≠ "") : BridgeSettings.loadAt env url = .ok { s with baseUrl := url } := by
  obtain ⟨own, -, hat⟩ := BridgeSettings.load_eq_ok_iff.1 h
  exact BridgeSettings.loadAt_eq_ok_at hat hurl

theorem bridgeSettings_option_of_load {s : BridgeSettings} (h : BridgeSettings.load env = .ok s)
    (hurl : url ≠ "") :
    bridgeSettings { o with baseUrl := some url } env =
      bridgeSettings { o with baseUrl := none } (env.setAddress url) := by
  refine bridgeSettings_congr ?_ rfl rfl
  rw [baseSettings_option hurl, baseSettings_variable hurl, h, loadAt_of_load h hurl]

theorem bridgeSettings_option_of_not_load (h : ∀ s, BridgeSettings.load env ≠ .ok s)
    (hurl : url ≠ "") :
    bridgeSettings { o with baseUrl := some url } env =
      bridgeSettings { o with baseUrl := none } (Environment.setAddress [] url) := by
  refine bridgeSettings_congr ?_ rfl rfl
  have hempty : BridgeSettings.loadAt [] url = .ok { baseUrl := url } :=
    BridgeSettings.loadAt_eq_ok_iff.2
      ⟨BridgeSettings.usable_usual hurl, rfl, rfl, rfl, rfl, rfl, rfl⟩
  rw [baseSettings_option hurl, baseSettings_variable hurl, hempty]
  cases hload : BridgeSettings.load env with
  | error fault => rfl
  | ok s => exact absurd hload (h s)

/-- Without an environment in order, option and variable come to the same if the options are
refused, or if nothing is lost. -/
theorem toOption_eq_iff_of_not_load (h : ∀ s, BridgeSettings.load env ≠ .ok s)
    (hurl : url ≠ "") :
    (bridgeSettings { o with baseUrl := some url } env).toOption =
        (bridgeSettings { o with baseUrl := none } (env.setAddress url)).toOption ↔
      Refused o ∨
        ∃ s, BridgeSettings.load (env.setAddress url) = .ok s ∧ Unheeded o s := by
  by_cases hrefused : Refused o
  · have hoption : Refused { o with baseUrl := some url } := hrefused
    have hvariable : Refused { o with baseUrl := none } := hrefused
    rw [toOption_bridgeSettings_of_refused hoption, toOption_bridgeSettings_of_refused hvariable]
    exact iff_of_true rfl (.inl hrefused)
  · have husual : baseSettings { o with baseUrl := some url } env = .ok { baseUrl := url } := by
      rw [baseSettings_option hurl]
      cases hload : BridgeSettings.load env with
      | error fault => rfl
      | ok s => exact absurd hload (h s)
    have hoption : bridgeSettings { o with baseUrl := some url } env =
        .ok (override o { baseUrl := url }) :=
      bridgeSettings_eq_ok_iff.2 ⟨_, husual, hrefused, rfl⟩
    rw [hoption, BridgeSettings.load_setAddress env hurl]
    simp only [hrefused, false_or]
    cases hat : BridgeSettings.loadAt env url with
    | error fault =>
      -- the variable reports what is wrong with the environment, the option does not
      have hvariable : bridgeSettings { o with baseUrl := none } (env.setAddress url) =
          .error fault := by
        rw [bridgeSettings, baseSettings_variable hurl, hat]
      simp [hvariable, Except.toOption]
    | ok s =>
      have haddress : s.baseUrl = url := (BridgeSettings.loadAt_eq_ok_iff.1 hat).2.1
      have hvariable : bridgeSettings { o with baseUrl := none } (env.setAddress url) =
          .ok (override o s) :=
        bridgeSettings_eq_ok_iff.2 ⟨s, (baseSettings_variable hurl).trans hat, hrefused, rfl⟩
      simp only [hvariable, Except.toOption, Option.some.injEq, Except.ok.injEq, exists_eq_left',
        unheeded_iff, haddress]
      exact eq_comm

end

/-- **An option for the address is the variable of the address, if the environment is in order.**
If the environment has an address of its own and all its settings are usable, the option comes to
the same as the variable in this environment.  Otherwise it comes to the same as the variable in an
environment that holds nothing else.  So the two agree exactly if the environment is in order, if
the other options are refused anyway, or if the environment with its address set is in order and
says nothing that a run does not do without. -/
theorem bridgeSettings_address (o : Options) (env : Environment) (url : RawText) (hurl : url ≠ "") :
    ((∃ s, BridgeSettings.load env = .ok s) →
      bridgeSettings { o with baseUrl := some url } env =
        bridgeSettings { o with baseUrl := none } (env.setAddress url)) ∧
    ((∀ s, BridgeSettings.load env ≠ .ok s) →
      bridgeSettings { o with baseUrl := some url } env =
        bridgeSettings { o with baseUrl := none } (Environment.setAddress [] url)) ∧
    ((bridgeSettings { o with baseUrl := some url } env).toOption =
        (bridgeSettings { o with baseUrl := none } (env.setAddress url)).toOption ↔
      (∃ s, BridgeSettings.load env = .ok s) ∨ Refused o ∨
        ∃ s, BridgeSettings.load (env.setAddress url) = .ok s ∧ Unheeded o s) := by
  refine ⟨?_, fun h => bridgeSettings_option_of_not_load h hurl, ?_⟩
  · rintro ⟨s, h⟩
    exact bridgeSettings_option_of_load h hurl
  · by_cases hload : ∃ s, BridgeSettings.load env = .ok s
    · obtain ⟨s, h⟩ := hload
      exact iff_of_true (congrArg Except.toOption (bridgeSettings_option_of_load h hurl))
        (.inl ⟨s, h⟩)
    · simp only [hload, false_or]
      exact toOption_eq_iff_of_not_load (by simpa using hload) hurl

/-- An environment with a user name and without an address: the option comes to the same as the
variable alone. -/
theorem bridgeSettings_address_of_username :
    ("/v1" : RawText) ≠ "" ∧
      bridgeSettings { baseUrl := some "/v1" } [(settingStem ++ "USERNAME", "user")] =
        bridgeSettings {} (Environment.setAddress [] "/v1") := by
  have hurl : ("/v1" : RawText) ≠ "" := by decide
  refine ⟨hurl, ?_⟩
  obtain ⟨-, hnot, -⟩ :=
    bridgeSettings_address {} [(settingStem ++ "USERNAME", "user")] "/v1" hurl
  refine hnot fun s h => ?_
  obtain ⟨url, haddress, -⟩ := BridgeSettings.load_eq_ok_iff.1 h
  have hnone : nonEmpty? [(settingStem ++ "USERNAME", "user")] "BASE_URL" = none := rfl
  rw [hnone] at haddress
  cases haddress

/-- Without an address in the environment the option loses the credentials there, which the variable
keeps; and it loses a malformed number of attempts, which the variable does not let pass. -/
theorem address_option_drops_settings :
    (∃ s, bridgeSettings { baseUrl := some "/v1" }
        [(settingStem ++ "USERNAME", "user"), (settingStem ++ "PASSWORD", "word")] = .ok s ∧
      s.username = none ∧ s.password = none) ∧
    (∃ s, bridgeSettings {} (Environment.setAddress
        [(settingStem ++ "USERNAME", "user"), (settingStem ++ "PASSWORD", "word")] "/v1") =
          .ok s ∧ s.username = some "user" ∧ s.password = some "word") ∧
    (∃ s, bridgeSettings { baseUrl := some "/v1" } [(settingStem ++ "RETRY_ATTEMPTS", "two")] =
      .ok s) ∧
    bridgeSettings {} (Environment.setAddress [(settingStem ++ "RETRY_ATTEMPTS", "two")] "/v1") =
      .error (.notNumber "RETRY_ATTEMPTS" "two") := by
  refine ⟨⟨_, rfl, rfl, rfl⟩, ⟨_, rfl, rfl, rfl⟩, ⟨_, rfl⟩, rfl⟩

end Command

end StationWatch
