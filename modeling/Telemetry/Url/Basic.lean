import Telemetry.Url.Domain

/-!
# URLs

A `Url` is a scheme, perhaps an authority (who asks, which host, which port), a path, and perhaps a
query and a fragment. Its parts are held as they are written: lowered, encoded and without the port
that goes without saying. `Url.toText` writes the parts together.

The path is a list of segments, except where a scheme gives it no meaning to us.
-/

namespace Telemetry

/-- Where a URL leads. -/
inductive Host where
  | domain (name : String)
  | ipv4 (address : Nat)
  | ipv6 (pieces : List Nat)
  deriving DecidableEq, Repr

/-- A host as text. -/
def Host.toText : Host → String
  | domain name => name
  | ipv4 address => Url.showIpv4 address
  | ipv6 pieces => "[" ++ Url.showIpv6 pieces ++ "]"

/-- The part of a URL that names a host. -/
structure Authority where
  username : String := ""
  password : String := ""
  host : Host
  port : Option Nat := none
  deriving DecidableEq, Repr

/-- An authority as text. -/
def Authority.toText (a : Authority) : String :=
  let user := a.username ++ if a.password.isEmpty then "" else ":" ++ a.password
  (if user.isEmpty then "" else user ++ "@") ++ a.host.toText ++
    match a.port with
    | none => ""
    | some n => ":" ++ toString n

/-- A path: segments, or a text without structure. -/
inductive UrlPath where
  | segments (parts : List String)
  | plain (text : String)
  deriving DecidableEq, Repr

/-- A path as text. -/
def UrlPath.toText : UrlPath → String
  | segments parts => String.join (parts.map ("/" ++ ·))
  | plain text => text

/-- A uniform resource locator. -/
structure Url where
  scheme : String
  authority : Option Authority := none
  path : UrlPath
  query : Option String := none
  fragment : Option String := none
  deriving DecidableEq, Repr

namespace Url

/-- The port that goes without saying; schemes that have one, and `file`, are special. -/
def defaultPort? (scheme : String) : Option Nat :=
  [("http", 80), ("https", 443), ("ws", 80), ("wss", 443), ("ftp", 21)].lookup scheme

/-- Whether a scheme is one whose URLs always have a host or are files. -/
def isSpecial (scheme : String) : Bool :=
  scheme == "file" || (defaultPort? scheme).isSome

/-- The host as text, unless there is none or it is empty. -/
def host? (u : Url) : Option String :=
  (u.authority.map fun a ↦ a.host.toText).filter fun s ↦ !s.isEmpty

/-- The path and the query, as they are asked for from the host. -/
def target (u : Url) : String :=
  u.path.toText ++ match u.query with
    | none => ""
    | some q => "?" ++ q

/-- A URL as text. A path that begins with two slashes has a point before it, unless there is an
authority. -/
def toText (u : Url) : String :=
  let before :=
    match u.authority, u.path with
    | some a, _ => "//" ++ a.toText
    | none, .segments ("" :: _ :: _) => "/."
    | none, _ => ""
  u.scheme ++ ":" ++ before ++ u.target ++ match u.fragment with
    | none => ""
    | some f => "#" ++ f

end Url

end Telemetry
