import Telemetry.Span
import Telemetry.Url.Error

/-!
# What can be wrong with settings
-/

namespace Telemetry

/-- Why settings cannot be used. -/
inductive SettingsError where
  | noUrl
  | unsupportedScheme (scheme : String)
  | noHostInUrl (url : String)
  | noHost
  | zeroTimeout
  | notAMap
  | keyNotText
  | unknownKey (key : String)
  | notText
  | notSwitch
  | invalidSwitch (text : String)
  | unitNotText
  | invalidUnit (text : String)
  | modeNotText
  | invalidMode (text : String)
  | schemaNotText
  | invalidSchema (text : String)
  | notSpan
  | negativeTimeout (seconds : Int)
  | invalidSpan (text : String) (cause : SpanError)
  | invalidUrl (text : String) (cause : UrlError)
  | twoAuthorizations
  | passwordAlone
  | invalidAuthorization
  /-- The value of an option is at fault. -/
  | inOption (key : String) (cause : SettingsError)
  deriving DecidableEq, Repr

/-- The text of a cause. -/
def SettingsError.message : SettingsError → String
  | noUrl => "no uri has been set"
  | unsupportedScheme scheme => s!"unsupported uri scheme {scheme}"
  | noHostInUrl url => s!"no host in uri {url}"
  | noHost => "no host has been set"
  | zeroTimeout => "timeout should not be zero"
  | notAMap => "yaml value type for 'metrics reporter config' should be 'map'"
  | keyNotText => "metrics reporter config keys should be strings"
  | unknownKey key => s!"invalid key {key}"
  | notText => "expected a string value"
  | notSwitch => "expected a boolean value"
  | invalidSwitch text => s!"invalid switch value {text}"
  | unitNotText => "yaml value type for time unit should be string"
  | invalidUnit text => s!"invalid time unit: {text}"
  | modeNotText => "yaml value type for hdr report mode should be string"
  | invalidMode text => s!"invalid hdr report mode: {text}"
  | schemaNotText => "yaml value type for schema version should be 'string' or 'integer'"
  | invalidSchema text => s!"invalid schema version: {text}"
  | notSpan => "expected a duration value"
  | negativeTimeout seconds => s!"negative timeout {seconds}"
  | invalidSpan text cause => s!"invalid duration {text}: {cause.message}"
  | invalidUrl text cause => s!"invalid url {text}: {cause.message}"
  | twoAuthorizations => "username and authorization should not be set at the same time"
  | passwordAlone => "password is set but no username"
  | invalidAuthorization => "invalid authorization header value: failed to parse header value"
  | inOption key cause => s!"failed to parse value of key {key}: {cause.message}"

end Telemetry
