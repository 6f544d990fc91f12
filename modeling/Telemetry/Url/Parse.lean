import Telemetry.Url.Basic
import Telemetry.Url.Percent

/-!
# Reading URLs

A text is read from left to right: scheme, authority, path, query, fragment. Control characters and
spaces at the ends do not count, nor do tabs and line breaks anywhere, but for one place: where they
stand behind the drive that the path of a file begins with, they part it from what follows
(`partedDrive?`).

Special schemes treat backslashes as slashes and any number of slashes as the two before a host,
which they must have. Other schemes have a host only behind exactly two slashes, and a path of
segments only behind a slash.

The steps of this reading are functions on the characters still to be read, which give back a part
of the URL and the characters behind it.
-/

namespace Telemetry.Url

open Text

/-- The characters of a text without control characters and spaces at the ends. -/
def trimmed (s : String) : List Char :=
  let edge (c : Char) : Bool := c.toNat ≤ 0x20
  ((s.toList.dropWhile edge).reverse.dropWhile edge).reverse

/-- Whether a character is a tab or a line break. -/
def isLayout (c : Char) : Bool :=
  c == '\t' || c == '\n' || c == '\r'

/-- The characters that are neither tabs nor line breaks. -/
def significant (cs : List Char) : List Char :=
  cs.filter fun c ↦ !isLayout c

/-- Whether a character may stand in a scheme behind the first letter. -/
def isSchemeChar (c : Char) : Bool :=
  c.isAlphanum || c == '+' || c == '-' || c == '.'

/-- The scheme in front of a colon, lowered. -/
def scheme? (cs : List Char) : Option (String × List Char) :=
  match cs, cs.dropWhile isSchemeChar with
  | c :: _, ':' :: rest =>
    if c.isAlpha then some (String.ofList ((cs.takeWhile isSchemeChar).map Char.toLower), rest)
    else none
  | _, _ => none

/-- Whether a character parts the path from what comes before it. -/
def isSlash (special : Bool) (c : Char) : Bool :=
  c == '/' || (special && c == '\\')

/-- The characters behind the slash that others begin with. -/
def behindSlash? (special : Bool) (cs : List Char) : Option (List Char) :=
  match cs.dropWhile isLayout with
  | c :: rest => if isSlash special c then some rest else none
  | [] => none

/-- Characters without a slash in front of them. -/
def dropSlash (special : Bool) (cs : List Char) : List Char :=
  (behindSlash? special cs).getD cs

/-- Whether a character ends the authority. -/
def endsAuthority (special : Bool) (c : Char) : Bool :=
  isSlash special c || c == '?' || c == '#'

/-- Reads the user name and password in front of the last at sign of the authority. -/
def userinfo (special : Bool) (cs : List Char) : Except UrlError (String × String × List Char) :=
  let authority := cs.takeWhile fun c ↦ !endsAuthority special c
  if !authority.contains '@' then .ok ("", "", cs)
  else
    -- an at sign before the last one belongs to the name or the password
    let behind := (authority.reverse.takeWhile (· ≠ '@')).reverse
    let user := authority.take (authority.length - behind.length - 1)
    let rest := behind ++ cs.drop authority.length
    if user.isEmpty && rest.head?.any (endsAuthority special) then .error .emptyHost
    else
      let name := user.takeWhile (· ≠ ':')
      let password := (user.drop name.length).drop 1
      .ok (percentEncode userinfoSet name, percentEncode userinfoSet password, rest)

/-- The characters of a host: up to a colon outside brackets, or to the end of the authority. -/
def hostChars (special : Bool) (bracketed : Bool) : List Char → List Char × List Char
  | [] => ([], [])
  | c :: rest =>
    if (c == ':' && !bracketed) || endsAuthority special c then ([], c :: rest)
    else
      let inside := if c == '[' then true else if c == ']' then false else bracketed
      let r := hostChars special inside rest
      (c :: r.1, r.2)

/-- The address inside brackets. -/
def bracketedHost (cs : List Char) : Except UrlError Host :=
  if cs.getLast? ≠ some ']' then .error .invalidIpv6
  else
    match ipv6? (cs.drop 1).dropLast with
    | none => .error .invalidIpv6
    | some pieces => .ok (.ipv6 pieces)

/-- The host of a special scheme that characters name. -/
def specialHost (cs : List Char) : Except UrlError Host :=
  if cs.head? = some '[' then bracketedHost cs
  else
    match (String.fromUTF8? ⟨(percentDecode cs).toArray⟩).bind fun s ↦ asciiDomain? s.toList with
    | none => .error .invalidDomain
    | some name =>
      if name.isEmpty then .error .emptyHost
      else if endsInNumber name then
        match ipv4? name with
        | none => .error .invalidIpv4
        | some n => .ok (.ipv4 n)
      else .ok (.domain (String.ofList name))

/-- The host of another scheme that characters name. -/
def plainHost (cs : List Char) : Except UrlError Host :=
  if cs.head? = some '[' then bracketedHost cs
  else if cs.any fun c ↦ c == Char.ofNat 0 || "\t\n\r #/:<>?@[\\]^|".toList.contains c then
    .error .invalidDomainCharacter
  else .ok (.domain (percentEncode controlSet cs))

/-- Reads a host. -/
def host (scheme : String) (cs : List Char) : Except UrlError (Host × List Char) :=
  let special := isSpecial scheme
  let (chars, rest) := hostChars special false cs
  if special then
    if chars.isEmpty then .error .emptyHost else (specialHost chars).map fun h ↦ (h, rest)
  else
    match plainHost chars with
    | .error e => .error e
    | .ok (.domain "") =>
      if rest.head? = some ':' then .error .emptyHost else .ok (.domain "", rest)
    | .ok h => .ok (h, rest)

/-- Reads a port. The one that goes without saying counts as none. -/
def port (scheme : String) (cs : List Char) : Except UrlError (Option Nat × List Char) :=
  match cs with
  | ':' :: rest =>
    let digits := rest.takeWhile Char.isDigit
    let behind := rest.drop digits.length
    let n := (digitsIn? 10 digits).getD 0
    if 65535 < n then .error .invalidPort
    else if behind.head?.all fun c ↦ "/\\?#".toList.contains c then
      .ok (if digits.isEmpty || defaultPort? scheme = some n then none else some n, behind)
    else .error .invalidPort
  | _ => .ok (none, cs)

/-- Whether a segment stands for the one above. -/
def isDoubleDot (segment : String) : Bool :=
  ["..", ".%2e", "%2e.", "%2e%2e"].contains (segment.map Char.toLower)

/-- Whether a segment stands for itself. -/
def isSingleDot (segment : String) : Bool :=
  [".", "%2e"].contains (segment.map Char.toLower)

/-- Whether a segment is a drive: a letter and a colon or bar. -/
def isDrive (segment : List Char) : Bool :=
  match segment with
  | [c, d] => c.isAlpha && (d == ':' || d == '|')
  | _ => false

/-- The segments above the last one, all in reverse; a drive stays, also with a backslash behind
it. -/
def parent : List String → List String
  | [] => []
  | last :: above =>
    let chars := last.toList
    if isDrive (chars.take 2) && (chars.drop 2).head?.all (· == '\\') then last :: above else above

/-- A drive with a tab or line break behind its colon, and what else the segment holds. -/
def partedDrive? (segment : List Char) : Option (List Char × List Char) :=
  let front := segment.takeWhile (· ≠ ':')
  match significant front, segment.drop front.length with
  | [letter], colon :: gap :: rest =>
    if letter.isAlpha && isLayout gap && !(significant rest).isEmpty then
      some ([letter, colon], significant rest)
    else none
  | _, _ => none

/-- The segments of a path as far as it is read. -/
structure Segments where
  /-- The segments, the last one first. -/
  reversed : List String := []
  /-- Whether the first segment was a drive. -/
  onDrive : Bool := false

namespace Segments

/-- The segments after one more, given its characters; behind the last one there is no slash. The
drive that the path of a file begins with is written with a colon. What a tab or line break parts
from such a drive is a segment of its own, and is not looked at further. -/
def push (file : Bool) (s : Segments) (segment : List Char) (isLast : Bool) : Segments :=
  let chars := significant segment
  let text := percentEncode pathSet chars
  let ended (parts : List String) : List String := if isLast then "" :: parts else parts
  if isDoubleDot text then { s with reversed := ended (parent s.reversed) }
  else if isSingleDot text then { s with reversed := ended s.reversed }
  else if file && s.reversed.isEmpty then
    if isDrive chars then { reversed := [String.ofList (chars.take 1) ++ ":"], onDrive := true }
    else
      match partedDrive? segment with
      | some (drive, rest) =>
        { s with reversed := [percentEncode pathSet rest, String.ofList drive] }
      | none => { s with reversed := [text] }
  else { s with reversed := text :: s.reversed }

/-- The segments after further ones. -/
def pushAll (file : Bool) (s : Segments) : List (List Char) → Segments
  | [] => s
  | [segment] => s.push file segment true
  | segment :: rest => pushAll file (s.push file segment false) rest

/-- The segments of the characters of a path. -/
def ofPath (special file : Bool) (cs : List Char) : Segments :=
  let cs := if special then cs.map fun c ↦ if c = '\\' then '/' else c else cs
  pushAll file {} (splitAt '/' cs)

/-- The texts of the segments. -/
def toList (s : Segments) : List String :=
  s.reversed.reverse

end Segments

/-- Whether a character ends the path. -/
def endsPath (c : Char) : Bool :=
  c == '?' || c == '#'

/-- The query and the fragment. -/
def tail (special : Bool) (cs : List Char) : Option String × Option String :=
  let front := cs.takeWhile (· ≠ '#')
  let query :=
    match front with
    | '?' :: q => some (percentEncode (if special then specialQuerySet else querySet) q)
    | _ => none
  let fragment :=
    match cs.drop front.length with
    | _ :: f => some (percentEncode fragmentSet f)
    | [] => none
  (query, fragment)

/-- A URL with a path of segments; one slash in front of the path is passed over. -/
def withPath (scheme : String) (authority : Option Authority) (cs : List Char) : Url :=
  let special := isSpecial scheme
  let chars := cs.takeWhile fun c ↦ !endsPath c
  let (query, fragment) := tail special (cs.drop chars.length)
  let parts :=
    if chars.isEmpty then if special then [""] else []
    else (Segments.ofPath special false (dropSlash special chars)).toList
  { scheme, authority, path := .segments parts, query, fragment }

/-- Reads what follows the two slashes in front of a host. -/
def behindSlashes (scheme : String) (cs : List Char) : Except UrlError Url := do
  let (username, password, rest) ← userinfo (isSpecial scheme) cs
  let (host, rest) ← host scheme rest
  let (port, rest) ← port scheme rest
  if host = .domain "" ∧ ¬ (username.isEmpty ∧ password.isEmpty) then .error .emptyHost
  else return withPath scheme (some { username, password, host, port }) rest

/-- The host of a file. The local host goes without saying. -/
def fileHost (cs : List Char) : Except UrlError Host :=
  if cs.isEmpty then .ok (.domain "")
  else (specialHost cs).map fun h ↦ if h = .domain "localhost" then .domain "" else h

/-- The URL of a file on a host. A path that begins with a drive is on no other host, and empty
segments in front of a path do not count. -/
def fileUrl (host : Host) (cs : List Char) : Url :=
  let chars := cs.takeWhile fun c ↦ !endsPath c
  let (query, fragment) := tail true (significant (cs.drop chars.length))
  let segments := Segments.ofPath true true chars
  let host := if segments.onDrive then .domain "" else host
  let parts := segments.toList.dropWhile (·.isEmpty)
  { scheme := "file", authority := some { host }
    path := .segments (if parts.isEmpty then [""] else parts), query, fragment }

/-- Reads what follows the two slashes in front of the host of a file. Without a host, the slash
behind it stands behind an empty segment of the path. -/
def fileBehindSlashes (cs : List Char) : Except UrlError Url := do
  let front := cs.takeWhile fun c ↦ !endsAuthority true c
  let chars := significant front
  if isDrive chars then return fileUrl (.domain "") cs
  let host ← fileHost chars
  let behind := cs.drop front.length
  return fileUrl host (if host = .domain "" then behind else dropSlash true behind)

/-- Reads what follows the scheme of a file, tabs and line breaks included. -/
def file (cs : List Char) : Except UrlError Url :=
  match (behindSlash? true cs).bind (behindSlash? true) with
  | some rest => fileBehindSlashes rest
  | none => .ok (fileUrl (.domain "") (dropSlash true cs))

/-- The URL that a text writes. -/
def parse (s : String) : Except UrlError Url :=
  match scheme? (significant (trimmed s)) with
  | none => .error .relativeWithoutBase
  | some (scheme, rest) =>
    if scheme = "file" then file (((trimmed s).dropWhile (· ≠ ':')).drop 1)
    else if isSpecial scheme then behindSlashes scheme (rest.dropWhile (isSlash true))
    else
      match rest with
      | '/' :: '/' :: rest => behindSlashes scheme rest
      | '/' :: _ => .ok (withPath scheme none rest)
      | _ =>
        let chars := rest.takeWhile fun c ↦ !endsPath c
        let (query, fragment) := tail false (rest.drop chars.length)
        .ok { scheme, path := .plain (percentEncode controlSet chars), query, fragment }

end Telemetry.Url
