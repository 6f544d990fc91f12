import Telemetry.Settings.Basic
import Telemetry.Text.Caseless
import Telemetry.Tree
import Telemetry.Url.Parse

/-!
# Settings read from a tree

Settings are written as a map from option names to values. Case does not matter in a name, hyphens
count as underscores, and some options have several names (`SettingsOption.names`).

The entries are taken one after another (`Settings.ofTree`): the first that is wrong is the error,
and of several entries for one option the last one counts. User name and password are looked at when
all entries have been read, whichever order they came in; they exclude another authorization, and
there is no password without a user name. What results must pass `Settings.check`.
-/

namespace Telemetry

/-- The options of a reporter. -/
inductive SettingsOption where
  | url
  | host
  | application
  | instanceName
  | role
  | description
  | authorization
  | username
  | password
  | deflate
  | rateUnit
  | durationUnit
  | skipUnchanged
  | mode
  | schema
  | connectTimeout
  | requestTimeout
  deriving DecidableEq, Repr

namespace SettingsOption

/-- The names of the options, in lower case and with underscores. -/
def names : List (List String × SettingsOption) :=
  [(["uri", "url"], url), (["host"], host), (["application", "app"], application),
    (["instance"], instanceName), (["role"], role), (["description"], description),
    (["authorization"], authorization), (["username"], username), (["password"], password),
    (["deflate"], deflate), (["rate_unit", "rateunit"], rateUnit),
    (["duration_unit", "durationunit"], durationUnit),
    (["skip_unchanged", "skipunchanged"], skipUnchanged), (["hdr_report", "hdrreport"], mode),
    (["schema", "schema_version"], schema), (["connect_timeout"], connectTimeout),
    (["request_timeout", "timeout"], requestTimeout)]

/-- The option that a key names. -/
def ofKey? (key : String) : Option SettingsOption :=
  Text.lookup? names (key.map fun c ↦ if c = '-' then '_' else c)

end SettingsOption

namespace Tree

/-- A value as text; whole numbers count as their digits. -/
def asText : Tree → Except SettingsError String
  | text s => .ok s
  | integer n => .ok (toString n)
  | _ => .error .notText

/-- A value as a truth value, which may be written out. -/
def asSwitch : Tree → Except SettingsError Bool
  | bool b => .ok b
  | text s =>
    match Text.lookup? [(["true", "yes", "on"], true), (["false", "no", "off"], false)] s with
    | some b => .ok b
    | none => .error (.invalidSwitch s)
  | _ => .error .notSwitch

/-- A value as a unit. -/
def asUnit : Tree → Except SettingsError TimeUnit
  | text s =>
    match TimeUnit.parse? s with
    | some u => .ok u
    | none => .error (.invalidUnit s)
  | _ => .error .unitNotText

/-- A value as what is shown of reservoirs. -/
def asMode : Tree → Except SettingsError PayloadMode
  | text s =>
    match PayloadMode.parse? s with
    | some m => .ok m
    | none => .error (.invalidMode s)
  | _ => .error .modeNotText

/-- A value as a version of the report's form. -/
def asSchema : Tree → Except SettingsError Schema
  | text s =>
    match Text.lookup? [(["legacy", "v2", "2"], .legacy), (["current", "v3", "3"], .current)] s with
    | some v => .ok v
    | none => .error (.invalidSchema s)
  | integer 2 => .ok .legacy
  | integer 3 => .ok .current
  | _ => .error .schemaNotText

/-- The number of seconds that a text of digits stands for; a plus sign may stand in front. -/
def seconds? (s : String) : Option Nat :=
  let digits := match s.toList with
    | '+' :: rest => rest
    | cs => cs
  if digits.isEmpty || !digits.all Char.isDigit || maxWord < Span.digitsValue digits then none
  else some (Span.digitsValue digits)

/-- A value as a timeout. Plain numbers are seconds. -/
def asTimeout : Tree → Except SettingsError Span
  | integer n => if n < 0 then .error (.negativeTimeout n) else .ok (.ofSeconds n.toNat)
  | text s =>
    match seconds? s with
    | some n => .ok (.ofSeconds n)
    | none =>
      match Span.parse s with
      | .ok d => .ok d
      | .error e => .error (.invalidSpan s e)
  | _ => .error .notSpan

/-- A value as a URL. -/
def asUrl (v : Tree) : Except SettingsError Url := do
  let s ← v.asText
  match Url.parse s with
  | .ok u => .ok u
  | .error e => .error (.invalidUrl s e)

end Tree

/-- Settings while a map is read: the user name and the password wait for its end. -/
structure PartialSettings where
  settings : Settings := {}
  username : Option String := none
  password : Option String := none
  deriving DecidableEq, Repr, Inhabited

namespace PartialSettings

/-- The settings after an option was given a value. -/
def set (p : PartialSettings) (v : Tree) : SettingsOption → Except SettingsError PartialSettings
  | .url => do return { p with settings.url := some (← v.asUrl) }
  | .host => do return { p with settings := p.settings.setHost (← v.asText) }
  | .application => do return { p with settings := p.settings.setApplication (← v.asText) }
  | .instanceName => do return { p with settings := p.settings.setInstance (← v.asText) }
  | .role => do return { p with settings := p.settings.setRole (← v.asText) }
  | .description => do return { p with settings := p.settings.setDescription (← v.asText) }
  | .authorization => do return { p with settings := p.settings.setAuthorization (← v.asText) }
  | .username => do return { p with username := some (← v.asText) }
  | .password => do return { p with password := some (← v.asText) }
  | .deflate => do return { p with settings.deflate := ← v.asSwitch }
  | .rateUnit => do return { p with settings.rateUnit := ← v.asUnit }
  | .durationUnit => do return { p with settings.durationUnit := ← v.asUnit }
  | .skipUnchanged => do return { p with settings.skipUnchanged := ← v.asSwitch }
  | .mode => do return { p with settings.mode := ← v.asMode }
  | .schema => do return { p with settings.schema := ← v.asSchema }
  | .connectTimeout => do return { p with settings.connectTimeout := ← v.asTimeout }
  | .requestTimeout => do return { p with settings.requestTimeout := ← v.asTimeout }

/-- The settings after one more entry. -/
def entry (p : PartialSettings) (e : Tree × Tree) : Except SettingsError PartialSettings :=
  match e.1 with
  | .text key =>
    let result :=
      match SettingsOption.ofKey? key with
      | some option => p.set e.2 option
      | none => .error (.unknownKey key)
    result.mapError (.inOption key)
  | _ => .error .keyNotText

/-- The settings with the user name and the password that the map gave. -/
def finish (p : PartialSettings) : Except SettingsError Settings :=
  match p.username, p.password with
  -- a user name alone goes with an empty password
  | some username, password =>
    if p.settings.authorization.isSome then .error .twoAuthorizations
    else .ok (p.settings.setBasicAuthorization username (password.getD ""))
  | none, some _ => .error .passwordAlone
  | none, none => .ok p.settings

end PartialSettings

/-- The settings that a tree describes. -/
def Settings.ofTree : Tree → Except SettingsError Settings
  | .map entries => do
    let p ← entries.foldlM PartialSettings.entry {}
    let s ← p.finish
    s.check
    return s
  | _ => .error .notAMap

end Telemetry
