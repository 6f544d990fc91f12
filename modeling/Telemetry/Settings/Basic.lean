import Telemetry.Base64
import Telemetry.Presentation
import Telemetry.Settings.Error
import Telemetry.Text.Blank
import Telemetry.Url.Basic

/-!
# Settings of a reporter

`Settings` say where reports go, who sends them, and how they are presented. Texts are trimmed when
they are set, and a blank one counts as not set. A user name and a password are kept as the value of
the header they make.

`Settings.check` says whether the settings are enough to report: a URL of a web scheme with a host,
a name for the host that reports, and timeouts that are not zero, asked for in this order.
-/

namespace Telemetry

/-- Where reports go, who sends them, and how they are presented. -/
structure Settings where
  url : Option Url := none
  host : String := ""
  application : Option String := none
  instanceName : Option String := none
  role : Option String := none
  description : Option String := none
  authorization : Option String := none
  deflate : Bool := false
  rateUnit : TimeUnit := .seconds
  durationUnit : TimeUnit := .milliseconds
  skipUnchanged : Bool := false
  mode : PayloadMode := default
  schema : Schema := default
  connectTimeout : Span := .ofSeconds 10
  requestTimeout : Span := .ofSeconds 30
  deriving DecidableEq, Repr, Inhabited

namespace Settings

/-- Settings with a URL and the name of the host that reports. -/
def new (url : Url) (host : String) : Settings :=
  { url := some url, host := Text.trim host }

/-- The settings with the name of the host that reports. -/
def setHost (s : Settings) (text : String) : Settings :=
  { s with host := Text.trim text }

/-- The settings with the name of the application. -/
def setApplication (s : Settings) (text : String) : Settings :=
  { s with application := Text.nonBlank? text }

/-- The settings with the name of the instance. -/
def setInstance (s : Settings) (text : String) : Settings :=
  { s with instanceName := Text.nonBlank? text }

/-- The settings with the role. -/
def setRole (s : Settings) (text : String) : Settings :=
  { s with role := Text.nonBlank? text }

/-- The settings with the description. -/
def setDescription (s : Settings) (text : String) : Settings :=
  { s with description := Text.nonBlank? text }

/-- The settings with the value of the authorization header. -/
def setAuthorization (s : Settings) (text : String) : Settings :=
  { s with authorization := Text.nonBlank? text }

/-- The value of the authorization header for a user name and a password. -/
def basicAuthorization (username password : String) : String :=
  "Basic " ++ Base64.encode (username ++ ":" ++ password).toByteArray.data.toList

/-- The settings with a user name and a password. -/
def setBasicAuthorization (s : Settings) (username password : String) : Settings :=
  { s with authorization := some (basicAuthorization username password) }

/-- Who reports. -/
def identity (s : Settings) : Identity where
  application := s.application
  host := Text.nonBlank? s.host
  instanceName := s.instanceName
  role := s.role
  description := s.description

/-- The units of reports. -/
def converter (s : Settings) : Converter :=
  ⟨s.rateUnit, s.durationUnit⟩

/-- How metrics are presented. -/
def presentation (s : Settings) : Presentation :=
  ⟨s.schema, s.identity, s.converter, s.mode⟩

/-- What the settings lack to report, if anything. -/
def check (s : Settings) : Except SettingsError Unit :=
  match s.url with
  | none => .error .noUrl
  | some url =>
    if url.scheme ≠ "http" ∧ url.scheme ≠ "https" then .error (.unsupportedScheme url.scheme)
    else if url.host?.isNone then .error (.noHostInUrl url.toText)
    else if s.host.isEmpty then .error .noHost
    else if s.connectTimeout.nanos = 0 ∨ s.requestTimeout.nanos = 0 then .error .zeroTimeout
    else .ok ()

end Settings

end Telemetry
