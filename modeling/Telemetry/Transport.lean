import Telemetry.Settings.Basic
import Telemetry.Stats
import Telemetry.Zlib.Stream

/-!
# Sending a body to a collector

A `Transport` puts bodies to one URL. What the collector does is a `Reply`: it answers with a
status, closes the connection without an answer, breaks off in the middle of one, or cannot be
reached. All but the first are failures.

Each sending is timed, the failed ones too, and the size of each body is recorded before it is sent.
How long an exchange takes is up to the collector, as the reply is, so it is an input beside it. The
clock is moved from outside only: a mark made during an exchange bears the time when it began.
-/

namespace Telemetry

/-- What a collector does with a request. -/
inductive Reply where
  /-- Answers with a status. -/
  | status (code : Nat)
  /-- Takes the request and closes the connection. -/
  | silence
  /-- Begins to answer and breaks off. -/
  | cutShort (code : Nat)
  /-- Takes no connection. -/
  | refusal
  deriving DecidableEq, Repr

/-- Why there is no status. -/
inductive TransportError where
  /-- The exchange failed. -/
  | exchange
  deriving DecidableEq, Repr

/-- The bytes sent: content, and whether it goes compressed. -/
structure Body where
  content : List UInt8
  deflated : Bool

/-- The bytes as they are sent. -/
def Body.bytes (b : Body) : List UInt8 :=
  if b.deflated then Zlib.compress b.content else b.content

/-- A request as the collector receives it. -/
structure Request where
  method : String
  target : String
  contentType : String
  contentEncoding : Option String
  contentLength : Nat
  authorization : Option String
  body : Body

/-- Where bodies are sent, and how. -/
structure Transport where
  url : Url
  authorization : Option String
  deflate : Bool
  deriving DecidableEq, Repr

namespace Transport

/-- The type of the content. -/
def contentType : String :=
  "application/x-protobuf"

/-- Whether a byte may stand in the value of a header. -/
def isHeaderByte (b : UInt8) : Bool :=
  b == 9 || (32 ≤ b && b != 127)

/-- Whether a text may be the value of a header. -/
def isHeaderValue (s : String) : Bool :=
  s.toByteArray.data.toList.all isHeaderByte

/-- The transport that settings ask for. -/
def create (s : Settings) : Except SettingsError Transport :=
  match s.url with
  | none => .error .noUrl
  | some url =>
    if s.authorization.all isHeaderValue then .ok ⟨url, s.authorization, s.deflate⟩
    else .error .invalidAuthorization

/-- The request for a body. -/
def request (t : Transport) (content : List UInt8) : Request :=
  let body : Body := ⟨content, t.deflate⟩
  { method := "PUT"
    target := t.url.target
    contentType := contentType
    contentEncoding := if t.deflate then some "deflate" else none
    contentLength := body.bytes.length
    authorization := t.authorization
    body }

/-- What became of a sending: the status or the failure, the request if the collector got it, and
the store afterwards. -/
structure Delivery where
  result : Except TransportError Nat
  request : Option Request
  store : Store

/-- Sends content to a collector that replies so, after some time. -/
def send (t : Transport) (stats : Stats) (now : Span) (content : List UInt8) (reply : Reply)
    (s : Store) (elapsed : Span := {}) : Delivery :=
  let request := t.request content
  let s := s.setHistogram stats.reportSize
    ((s.histogram stats.reportSize).update request.contentLength.toUInt64)
  let s := s.setTimer stats.reports ((s.timer stats.reports).update elapsed now)
  match reply with
  | .status code => ⟨.ok code, some request, s⟩
  | .silence | .cutShort _ => ⟨.error .exchange, some request, s⟩
  | .refusal => ⟨.error .exchange, none, s⟩

end Transport

end Telemetry
