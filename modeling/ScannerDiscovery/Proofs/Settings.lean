import ScannerDiscovery.Mdns.Client
import ScannerDiscovery.Proofs.Number.Signs
import ScannerDiscovery.Settings

/-!
# Delays of accepted settings

Every delay of settings that are accepted is greater than zero, whether it has been given as an
argument, in the environment, within a group or not at all, with one exception: the undefined number
is comparable with nothing, so that the test that refuses zero and below lets it pass.

Main definitions:

- `DiscoverySettings.Delay` : the delays that are tested, with their names and defaults.
- `DiscoverySettings.Provides` : where a delay comes from.
- `DiscoverySettings.Usable` : what is true of accepted settings.

Main results:

- `Setting.toPositive_eq_ok_iff` : the values that the test accepts.
- `DiscoverySettings.accepted_iff`, `Settings.exists_of_read` : which settings are accepted.
- `Settings.undefined_delay_accepted` : settings with a delay that is not positive.
- `Settings.delays_positive_or_undefined` : all others are.
-/

namespace ScannerDiscovery

open Json (Document)

/-- An outcome with a result is a success. -/
theorem eq_ok_of_toOption {ε α : Type} {outcome : Except ε α} {x : α}
    (result : outcome.toOption = some x) : outcome = .ok x := by
  cases outcome with
  | error => cases result
  | ok => exact congrArg _ (Option.some.inj result)

/-! ## The test -/

namespace Binary64

/-- What is not at most zero is greater, or is no number. -/
theorem not_le_zero_iff {x : Binary64} : ¬x ≤ 0 ↔ 0 < x ∨ x = undefined := by
  have zero : (0 : Binary64) ≠ undefined := nofun
  constructor
  · intro above
    by_cases number : x = undefined
    · exact .inr number
    · exact .inl (lt_iff.2 ⟨(le_total_of_defined number zero).resolve_left above, above⟩)
  · rintro (positive | rfl)
    · exact (lt_iff.1 positive).2
    · exact (not_le_undefined 0).2

end Binary64

namespace Setting

variable {value : Document} {x : Binary64}

/-- The test accepts the numbers that are not at most zero. -/
theorem toPositive_eq_ok_iff :
    toPositive value = .ok x ↔ toReal value = .ok x ∧ (0 < x ∨ x = .undefined) := by
  rw [← Binary64.not_le_zero_iff, toPositive]
  cases toReal value with
  | error e => exact iff_of_false nofun nofun
  | ok y =>
      change (if y ≤ 0 then Except.error SettingError.notPositive else .ok y) = .ok x ↔ _
      rw [Except.ok.injEq]
      by_cases small : y ≤ 0
      · rw [if_pos small]
        exact iff_of_false nofun fun ⟨same, above⟩ => above (same ▸ small)
      · rw [if_neg small, Except.ok.injEq]
        exact (and_iff_left_of_imp fun same => same ▸ small).symm

/-! ### Values that are no number -/

/-- The values that spell the undefined number. -/
def SpellsUndefined : Document → Prop
  | .number literal => Decimal.SpellsUndefined literal.toList
  | .text s => Decimal.SettingSpellsUndefined s.toList
  | _ => False

theorem realOfInteger_ne_undefined (n : Int) : realOfInteger n ≠ .ok .undefined := by
  unfold realOfInteger
  have defined : Binary64.ofInt n ≠ .undefined := (Binary64.signed_ofRatio ..).ne_undefined
  split
  · nofun
  · simpa using defined

/-- Only what spells it is read as the undefined number. -/
theorem spellsUndefined_of_toReal (reads : toReal value = .ok .undefined) :
    SpellsUndefined value := by
  cases value with
  | flag b => cases b <;> cases reads
  | number literal =>
      unfold toReal at reads
      dsimp only at reads
      split at reads
      · exact absurd reads (realOfInteger_ne_undefined _)
      · rename_i real
        cases reads
        exact Decimal.readReal_eq_undefined_iff.1 real
      · cases reads
  | text s =>
      unfold toReal at reads
      dsimp only at reads
      split at reads
      · rename_i setting
        cases reads
        exact Decimal.settingSpellsUndefined_of_readSetting setting
      · cases reads
  | _ => cases reads

end Setting

/-! ## Fields -/

namespace SettingSources

variable {α : Type} {sources : SettingSources} {stem name : String}
  {read : Document → Except SettingError α} {default x : α}

/-- A field has what was read from the value that counts, or its default. -/
theorem field_eq_ok_iff :
    sources.field stem name read default = .ok x ↔
      (sources.value? stem name = none ∧ x = default) ∨
        ∃ value, sources.value? stem name = some value ∧ read value = .ok x := by
  rw [field]
  cases sources.value? stem name with
  | none => simp [eq_comm]
  | some value => cases outcome : read value <;> simp [Except.mapError, outcome]

end SettingSources

namespace DiscoverySettings

/-- The delays that must be positive. -/
inductive Delay
  | restart
  | quiet
  | resolve

/-- The field of a delay. -/
def Delay.field : Delay → String
  | restart => "restart_delay_seconds"
  | quiet => "all_for_now_seconds"
  | resolve => "resolve_timeout_seconds"

/-- The value of a delay. -/
def delay (settings : DiscoverySettings) : Delay → Binary64
  | .restart => settings.restartDelay
  | .quiet => settings.quietPeriod
  | .resolve => settings.resolveTimeout

/-- Without any source a delay is positive. -/
theorem default_delay_pos (d : Delay) : 0 < default.delay d := by
  cases d <;> decide +kernel

/-- Where a delay comes from: the value that counts among those given, or the default. -/
inductive Provides (sources : SettingSources) (d : Delay) : Binary64 → Prop
  | given {value : Document} {x : Binary64} (counts : sources.value? stem d.field = some value)
      (reads : Setting.toReal value = .ok x) : Provides sources d x
  | default (absent : sources.value? stem d.field = none) :
      Provides sources d (DiscoverySettings.default.delay d)

variable {sources : SettingSources} {settings : DiscoverySettings} {d : Delay} {x : Binary64}

/-- A delay passes the test if it comes from its source and is not at most zero. -/
theorem delay_field_eq_ok_iff :
    sources.field stem d.field Setting.toPositive (default.delay d) = .ok x ↔
      Provides sources d x ∧ (0 < x ∨ x = .undefined) := by
  rw [SettingSources.field_eq_ok_iff]
  constructor
  · rintro (⟨absent, rfl⟩ | ⟨value, counts, passes⟩)
    · exact ⟨.default absent, .inl (default_delay_pos d)⟩
    · obtain ⟨reads, above⟩ := Setting.toPositive_eq_ok_iff.1 passes
      exact ⟨.given counts reads, above⟩
  · rintro ⟨provided, above⟩
    cases provided with
    | given counts reads => exact .inr ⟨_, counts, Setting.toPositive_eq_ok_iff.2 ⟨reads, above⟩⟩
    | default absent => exact .inl ⟨absent, rfl⟩

/-- Only a value that spells it provides the undefined number. -/
theorem Provides.spellsUndefined (provided : Provides sources d .undefined) :
    ∃ value, sources.value? stem d.field = some value ∧ Setting.SpellsUndefined value := by
  generalize undefined : (Binary64.undefined : Binary64) = x at provided
  cases provided with
  | given counts reads =>
      exact ⟨_, counts, Setting.spellsUndefined_of_toReal (undefined ▸ reads)⟩
  | default absent =>
      have positive := default_delay_pos d
      rw [← undefined] at positive
      exact absurd positive (by decide)

/-- The settings that are no delays to be tested are those of their sources. -/
structure ReadsOthers (sources : SettingSources) (settings : DiscoverySettings) : Prop where
  enabled : sources.field stem "enabled" Setting.toFlag default.enabled = .ok settings.enabled
  ready : sources.field stem "ready_timeout_seconds" Setting.toReal default.readyTimeout =
    .ok settings.readyTimeout
  ipVersion : sources.field stem "ip_version" Setting.toIpVersion default.ipVersion =
    .ok settings.ipVersion

/-- Settings are accepted exactly if each delay is, and each of the others. -/
theorem read_eq_ok_iff :
    read sources = .ok settings ↔
      (∀ d, sources.field stem d.field Setting.toPositive (default.delay d) =
        .ok (settings.delay d)) ∧ settings.ReadsOthers sources := by
  unfold read
  dsimp only
  constructor
  · intro accepted
    split at accepted
    · next enabled restart quiet resolve ready ip =>
      cases accepted
      refine ⟨fun d => ?_, enabled, ready, ip⟩
      cases d with
      | restart => exact restart
      | quiet => exact quiet
      | resolve => exact resolve
    · cases accepted
  · rintro ⟨delays, enabled, ready, ip⟩
    have restart := delays .restart
    have quiet := delays .quiet
    have resolve := delays .resolve
    simp only [Delay.field, delay] at restart quiet resolve
    rw [enabled, restart, quiet, resolve, ready, ip]

end DiscoverySettings

/-! ## Groups -/

namespace Settings

/-- The arguments that a group of settings of discovery stands for: none without a group. -/
def groupArguments? : Option Document → Option (List (String × Document))
  | none => some []
  | some (.record fields) => some fields
  | some _ => none

/-- A group is accepted if it stands for arguments that are. -/
theorem readDiscovery_eq_ok_iff {group : Option Document} {environment : List (String × String)}
    {discovery : DiscoverySettings} :
    readDiscovery group environment = .ok discovery ↔
      ∃ arguments, groupArguments? group = some arguments ∧
        DiscoverySettings.read ⟨arguments, environment⟩ = .ok discovery := by
  match group with
  | none => simp [readDiscovery, groupArguments?]
  | some (.record fields) =>
      simp only [readDiscovery, groupArguments?, Option.some.injEq, exists_eq_left']
      cases DiscoverySettings.read ⟨fields, environment⟩ <;> simp [Except.mapError]
  | some .null | some (.flag _) | some (.number _) | some (.text _) | some (.brokenText _)
  | some (.list _) => simp [readDiscovery, groupArguments?]

/-- The settings of discovery within accepted settings are those of the group and the
environment. -/
theorem exists_of_read {sources : SettingSources} {settings : Settings}
    (accepted : read sources = .ok settings) :
    ∃ group arguments, group? sources = .ok group ∧ groupArguments? group = some arguments ∧
      DiscoverySettings.read ⟨arguments, sources.environment⟩ = .ok settings.discovery := by
  unfold read at accepted
  cases found : group? sources with
  | error fault =>
      rw [found] at accepted
      cases accepted
  | ok group =>
      rw [found] at accepted
      refine ⟨group, ?_⟩
      simp only [true_and, ← readDiscovery_eq_ok_iff]
      simp only [bind, Except.bind] at accepted
      split at accepted
      · rename_i discovery _
        cases accepted
        exact discovery
      · cases accepted
      · split at accepted <;> cases accepted

end Settings

/-! ## Accepted settings -/

/-- A positive timeout is a natural number of milliseconds, unless it is infinite. -/
theorem Mdns.timeout_of_pos {x : Binary64} (positive : 0 < x) (ipVersion : IpVersion) :
    (∃ n : Nat, (Client.new ipVersion x).timeout = some (n : Int)) ∨
      x * 1000 = .infinite false := by
  have thousand : (1000 : Binary64) = .finite false 8796093022208000 (-43) := by decide +kernel
  have product : (x * 1000).Signed false := by
    rw [thousand]
    exact (Binary64.signed_of_pos positive).mul_finite (by decide) false _
  exact product.truncate?

/-- Settings whose delays come from their sources, and are usable unless they are undefined there.
-/
structure DiscoverySettings.Usable (sources : SettingSources) (settings : DiscoverySettings) :
    Prop where
  /-- Each delay is given, or the default. -/
  provided (d : Delay) : Provides sources d (settings.delay d)
  /-- Each delay is positive, unless the undefined number is given. -/
  positive (d : Delay) : 0 < settings.delay d ∨ settings.delay d = .undefined ∧
    ∃ value, sources.value? stem d.field = some value ∧ Setting.SpellsUndefined value
  /-- A client waits for a natural number of milliseconds, unless the timeout is no number or too
  large for one. -/
  timeout (ipVersion : IpVersion) :
    (∃ n : Nat, (Mdns.Client.new ipVersion settings.resolveTimeout).timeout = some (n : Int)) ∨
      settings.resolveTimeout * 1000 = .infinite false ∨ settings.resolveTimeout = .undefined

theorem DiscoverySettings.usable_iff {sources : SettingSources} {settings : DiscoverySettings} :
    settings.Usable sources ↔ ∀ d, sources.field stem d.field Setting.toPositive (default.delay d) =
      .ok (settings.delay d) := by
  simp only [delay_field_eq_ok_iff]
  constructor
  · rintro ⟨provided, positive, -⟩ d
    exact ⟨provided d, (positive d).imp_right And.left⟩
  · intro each
    refine ⟨fun d => (each d).1, fun d => ?_, fun ipVersion => ?_⟩
    · obtain ⟨provided, positive | undefined⟩ := each d
      · exact .inl positive
      · exact .inr ⟨undefined, (undefined ▸ provided).spellsUndefined⟩
    · obtain ⟨-, positive | undefined⟩ := each .resolve
      · exact (Mdns.timeout_of_pos positive ipVersion).imp_right .inl
      · exact .inr (.inr undefined)

/-- Settings are accepted exactly if their delays are usable and the others are read. -/
theorem DiscoverySettings.accepted_iff {sources : SettingSources} {settings : DiscoverySettings} :
    read sources = .ok settings ↔ settings.Usable sources ∧ settings.ReadsOthers sources := by
  rw [read_eq_ok_iff, usable_iff]

namespace Settings

/-- The delays of accepted settings, by themselves or within those of the program, come from an
argument, the environment or the default, and are positive unless the undefined number is given; and
no settings are refused for other delays. -/
theorem delays_positive_or_undefined (sources : SettingSources) :
    (∀ settings, DiscoverySettings.read sources = .ok settings ↔
      settings.Usable sources ∧ settings.ReadsOthers sources) ∧
    ∀ settings, read sources = .ok settings →
      ∃ group arguments, group? sources = .ok group ∧ groupArguments? group = some arguments ∧
        settings.discovery.Usable ⟨arguments, sources.environment⟩ := by
  refine ⟨fun settings => DiscoverySettings.accepted_iff, fun settings accepted => ?_⟩
  obtain ⟨group, arguments, found, stands, nested⟩ := exists_of_read accepted
  exact ⟨group, arguments, found, stands, (DiscoverySettings.accepted_iff.1 nested).1⟩

/-- A flag and an infinity as arguments and the least number in the environment are accepted, and so
is a number in a group that a variable holds. -/
theorem unusual_delays_positive :
    (∃ settings, (DiscoverySettings.read ⟨[("Restart_Delay_Seconds", .flag true),
        ("resolve_timeout_seconds", .text "inf")],
        [("scanfinder_discovery_all_for_now_seconds", " 5e-324 ")]⟩ = .ok settings ∧
      ∀ d, 0 < settings.delay d) ∧ settings.quietPeriod = .finite false 1 (-1074)) ∧
    ∃ settings, (read
        ⟨[], [("SCANFINDER_DISCOVERY", "\x7b\"All_For_Now_Seconds\": \"2.5\"\x7d"),
          ("SCANFINDER_DISCOVERY_RESOLVE_TIMEOUT_SECONDS", "1_0")]⟩ = .ok settings ∧
      ∀ d, 0 < settings.discovery.delay d) ∧ settings.discovery.resolveTimeout = 10 := by
  have alone {sources : SettingSources} {settings : DiscoverySettings}
      (accepted : DiscoverySettings.read sources = .ok settings)
      (defined : ∀ d, settings.delay d ≠ .undefined) :
      DiscoverySettings.read sources = .ok settings ∧ ∀ d, 0 < settings.delay d :=
    have ⟨usable, _⟩ := ((delays_positive_or_undefined sources).1 settings).1 accepted
    ⟨accepted, fun d => (usable.positive d).resolve_right fun other => defined d other.1⟩
  have nested {sources : SettingSources} {settings : Settings}
      (accepted : read sources = .ok settings)
      (defined : ∀ d, settings.discovery.delay d ≠ .undefined) :
      read sources = .ok settings ∧ ∀ d, 0 < settings.discovery.delay d :=
    have ⟨_, _, _, _, usable⟩ := (delays_positive_or_undefined sources).2 settings accepted
    ⟨accepted, fun d => (usable.positive d).resolve_right fun other => defined d other.1⟩
  refine ⟨⟨{ DiscoverySettings.default with
      quietPeriod := .finite false 1 (-1074), resolveTimeout := .infinite false },
      alone (eq_ok_of_toOption (by decide +kernel)) ?_, rfl⟩,
    ⟨⟨false, "INFO", { DiscoverySettings.default with
      quietPeriod := .finite false 5629499534213120 (-51), resolveTimeout := 10 }⟩,
      nested (eq_ok_of_toOption (by decide +kernel)) ?_, rfl⟩⟩
  · rintro (_ | _ | _) <;> decide +kernel
  · rintro (_ | _ | _) <;> decide +kernel

/-- The undefined number is accepted from the environment, by itself and within the settings of the
program. A lookup then has no timeout. -/
theorem undefined_delay_accepted :
    (∃ settings, DiscoverySettings.read
        ⟨[], [("SCANFINDER_DISCOVERY_ALL_FOR_NOW_SECONDS", "nan")]⟩ = .ok settings ∧
      ¬0 < settings.quietPeriod) ∧
    ∃ settings, read ⟨[], [("SCANFINDER_DISCOVERY_RESOLVE_TIMEOUT_SECONDS", "nan")]⟩ =
        .ok settings ∧
      ¬0 < settings.discovery.resolveTimeout ∧
        (Mdns.Client.new .all settings.discovery.resolveTimeout).timeout = none := by
  exact ⟨⟨{ DiscoverySettings.default with quietPeriod := .undefined },
      eq_ok_of_toOption (by decide +kernel), by decide⟩,
    ⟨false, "INFO", { DiscoverySettings.default with resolveTimeout := .undefined }⟩,
      eq_ok_of_toOption (by decide +kernel), by decide, rfl⟩

end Settings

end ScannerDiscovery
