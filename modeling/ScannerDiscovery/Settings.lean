import ScannerDiscovery.Engine.State
import ScannerDiscovery.Json.Reader
import ScannerDiscovery.Number.Decimal

/-!
# Settings

Settings come from arguments, from environment variables and from defaults, in this order of
precedence. Every field has its own reader; all fields that are refused are reported together.

Main definitions:

- `DiscoverySettings.read` : the settings of discovery.
- `Settings.read` : the settings of the program, with those of discovery among them.
-/

namespace ScannerDiscovery

open Json (Document)

/-! ## Values -/

/-- Why a value is refused. -/
inductive SettingError
  | flagText
  | flagType
  | numberText
  | numberType
  | notPositive
  | notAChoice
  | textType
  | brokenText
  | groupType
  deriving DecidableEq

/-- The code of a refusal. -/
def SettingError.code : SettingError → String
  | flagText => "bool_parsing"
  | flagType => "bool_type"
  | numberText => "float_parsing"
  | numberType => "float_type"
  | notPositive => "value_error"
  | notAChoice => "literal_error"
  | textType => "string_type"
  | brokenText => "string_unicode"
  | groupType => "model_type"

namespace Setting

/-- The greatest size of a whole number that is looked at as a flag. -/
def wordLimit : Int := 9223372036854775808

/-- The flag that a word stands for, in any case. -/
def flagOfWord? (word : String) : Option Bool :=
  let small := String.ofList (word.toList.map Decimal.small)
  if ["true", "1", "yes", "on", "t", "y"].contains small then some true
  else if ["false", "0", "no", "off", "f", "n"].contains small then some false
  else none

/-- The flag that a whole number stands for: one or zero. -/
def flagOfInteger (n : Int) : Except SettingError Bool :=
  if n = 1 then .ok true else if n = 0 then .ok false else .error .flagText

/-- The flag that a number stands for. A number that is not whole, or too large, is no flag at
all. The limit itself is too large unless it is the least whole number of 64 bits, written
without a point. -/
def flagOfNumber (literal : String) : Except SettingError Bool :=
  match literal.toInt? with
  | some n => if -wordLimit ≤ n ∧ n < wordLimit then flagOfInteger n else .error .flagType
  | none =>
    match Decimal.readReal literal.toList with
    | none => .error .flagType
    | some x =>
      match x.truncate? with
      | none => .error .flagType
      | some n =>
        let whole := Binary64.ofInt n
        if whole ≤ x ∧ x ≤ whole ∧ -wordLimit < n ∧ n < wordLimit then flagOfInteger n
        else .error .flagType

/-- Reads a flag: one or zero, or a word that stands for a flag. -/
def toFlag : Document → Except SettingError Bool
  | .flag b => .ok b
  | .number literal => flagOfNumber literal
  | .text s =>
    match flagOfWord? s with
    | some b => .ok b
    | none => .error .flagText
  | .brokenText _ => .error .brokenText
  | _ => .error .flagType

/-- The number nearest to a whole number, unless that is out of range. -/
def realOfInteger (n : Int) : Except SettingError Binary64 :=
  match Binary64.ofInt n with
  | .infinite _ => .error .numberType
  | x => .ok x

/-- Reads a number. -/
def toReal : Document → Except SettingError Binary64
  | .flag b => .ok (if b then 1 else 0)
  | .number literal =>
    match literal.toInt?, Decimal.readReal literal.toList with
    | some n, _ => realOfInteger n
    | none, some x => .ok x
    | none, none => .error .numberType
  | .text s =>
    match Decimal.readSetting s.toList with
    | some x => .ok x
    | none => .error .numberText
  | .brokenText _ => .error .brokenText
  | _ => .error .numberType

/-- Reads a number of seconds that must not be zero or below. -/
def toPositive (value : Document) : Except SettingError Binary64 := do
  let x ← toReal value
  if x ≤ 0 then throw .notPositive
  return x

/-- Reads a limitation of address families. -/
def toIpVersion : Document → Except SettingError IpVersion
  | .text s =>
    match IpVersion.ofText? s with
    | some v => .ok v
    | none => .error .notAChoice
  | .brokenText _ => .error .brokenText
  | _ => .error .notAChoice

/-- Reads a text. -/
def toText : Document → Except SettingError String
  | .text s => .ok s
  | .brokenText _ => .error .brokenText
  | _ => .error .textType

end Setting

/-! ## Sources -/

/-- Where the values of a group of settings come from: arguments by field name, and environment
variables by name behind a stem. In either case upper and lower case are the same. -/
structure SettingSources where
  arguments : List (String × Document)
  environment : List (String × String)

namespace SettingSources

/-- The argument for a field. Of several that differ in case the first one counts. -/
def argument? (sources : SettingSources) (field : String) : Option Document :=
  (sources.arguments.find? fun argument => Text.lower argument.1 == field).map (·.2)

/-- The variable for a field. Of several that differ in case the last one counts. -/
def inEnvironment? (sources : SettingSources) (stem field : String) : Option String :=
  let name := Text.lower (stem ++ field)
  (sources.environment.reverse.find? fun entry => Text.lower entry.1 == name).map (·.2)

/-- The value of a field. An argument wins over the environment. -/
def value? (sources : SettingSources) (stem field : String) : Option Document :=
  (sources.argument? field).or ((sources.inEnvironment? stem field).map .text)

/-- A field read from its sources, or its default. -/
def field {α : Type} (sources : SettingSources) (stem name : String)
    (read : Document → Except SettingError α) (default : α) : Except (String × SettingError) α :=
  match sources.value? stem name with
  | none => .ok default
  | some value => (read value).mapError fun e => (name, e)

end SettingSources

/-- Fields that were refused, with the reason. -/
abbrev Refusals := List (String × SettingError)

/-- The refusal of a field, if there is one. -/
def refusal {α : Type} : Except (String × SettingError) α → Refusals
  | .ok _ => []
  | .error e => [e]

/-! ## Discovery -/

/-- The settings of discovery. Delays and periods are in seconds. -/
structure DiscoverySettings where
  enabled : Bool
  restartDelay : Binary64
  quietPeriod : Binary64
  resolveTimeout : Binary64
  readyTimeout : Binary64
  ipVersion : IpVersion
  deriving DecidableEq

namespace DiscoverySettings

/-- The settings without any source. -/
def default : DiscoverySettings :=
  ⟨true, 1, 3, 3, 5, .all⟩

/-- What the environment variables of discovery begin with. -/
def stem : String := "SCANFINDER_DISCOVERY_"

/-- The names of the fields. -/
def fieldNames : List String := [
  "enabled", "restart_delay_seconds", "all_for_now_seconds", "resolve_timeout_seconds",
  "ready_timeout_seconds", "ip_version"]

/-- Reads the settings of discovery. Refusals are listed in order of field names. -/
def read (sources : SettingSources) : Except Refusals DiscoverySettings :=
  let quiet := sources.field stem "all_for_now_seconds" Setting.toPositive default.quietPeriod
  let enabled := sources.field stem "enabled" Setting.toFlag default.enabled
  let ip := sources.field stem "ip_version" Setting.toIpVersion default.ipVersion
  let ready := sources.field stem "ready_timeout_seconds" Setting.toReal default.readyTimeout
  let resolve :=
    sources.field stem "resolve_timeout_seconds" Setting.toPositive default.resolveTimeout
  let restart :=
    sources.field stem "restart_delay_seconds" Setting.toPositive default.restartDelay
  match enabled, restart, quiet, resolve, ready, ip with
  | .ok enabled, .ok restartDelay, .ok quietPeriod, .ok resolveTimeout, .ok readyTimeout,
      .ok ipVersion =>
    .ok { enabled, restartDelay, quietPeriod, resolveTimeout, readyTimeout, ipVersion }
  | _, _, _, _, _, _ =>
    .error (refusal quiet ++ refusal enabled ++ refusal ip ++ refusal ready ++ refusal resolve ++
      refusal restart)

end DiscoverySettings

/-! ## The program -/

/-- The settings of the program. -/
structure Settings where
  debug : Bool
  logLevel : String
  discovery : DiscoverySettings
  deriving DecidableEq

/-- Why there are no settings: a variable that holds no document where a whole group is expected,
or fields that were refused. -/
inductive SettingsFault
  | unreadable (field : String)
  | refused (refusals : Refusals)

/-- The text of a fault. -/
def SettingsFault.message : SettingsFault → String
  | unreadable field =>
    "error parsing value for field \"" ++ field ++ "\" from source \"EnvSettingsSource\""
  | refused refusals => ", ".intercalate (refusals.map fun (field, e) => field ++ ": " ++ e.code)

namespace Settings

/-- What the environment variables of the program begin with. -/
def stem : String := "SCANFINDER_"

/-- The settings of discovery given as a group. -/
def groupField : String := "discovery"

/-- A field name as the settings of discovery spell it, if they have it. -/
def spelling (name : String) : String :=
  if DiscoverySettings.fieldNames.contains (Text.lower name) then Text.lower name else name

/-- The group that a variable holds, with its fields spelled as they should be. A variable that
holds nothing counts as absent. -/
def groupOfText (text : String) : Except SettingsFault (Option Document) :=
  match Json.read? text with
  | none => .error (.unreadable groupField)
  | some .null => .ok none
  | some (.record fields) =>
    .ok (some (.ofFields (fields.map fun (name, value) => (spelling name, value))))
  | some other => .ok (some other)

/-- What an argument and a variable give together: the fields of both, where those of the
argument count, if both are records; else the argument, if there is one. -/
def combine : Option Document → Option Document → Option Document
  | some (.record fields), some (.record others) => some (.ofFields (others ++ fields))
  | argument, held => argument.or held

/-- The group of settings of discovery that the sources give as a whole. -/
def group? (sources : SettingSources) : Except SettingsFault (Option Document) :=
  match sources.inEnvironment? stem groupField with
  | none => .ok (sources.argument? groupField)
  | some text => (groupOfText text).map (combine (sources.argument? groupField))

/-- Reads the settings of discovery from a group, if one is given, and from the environment.
Fields of a given group are refused by their place in it. -/
def readDiscovery (group : Option Document) (environment : List (String × String)) :
    Except Refusals DiscoverySettings :=
  match group with
  | none => DiscoverySettings.read ⟨[], environment⟩
  | some (.record fields) =>
    (DiscoverySettings.read ⟨fields, environment⟩).mapError fun refusals =>
      refusals.map fun (field, e) => (groupField ++ "." ++ field, e)
  | some _ => .error [(groupField, .groupType)]

/-- Reads the settings of the program. If those of discovery are refused for want of a group,
only their refusals are reported. -/
def read (sources : SettingSources) : Except SettingsFault Settings := do
  let group ← group? sources
  let debug := sources.field stem "debug" Setting.toFlag false
  let logLevel := sources.field stem "log_level" Setting.toText "INFO"
  match debug, readDiscovery group sources.environment, logLevel with
  | .ok debug, .ok discovery, .ok logLevel => return { debug, logLevel, discovery }
  | _, .ok _, _ => throw (.refused (refusal debug ++ refusal logLevel))
  | _, .error refusals, _ =>
    if group.isNone then throw (.refused refusals)
    else throw (.refused (refusal debug ++ refusals ++ refusal logLevel))

end Settings

end ScannerDiscovery
