import Telemetry.Text.Hex

/-!
# Percent-encoded text

Characters that a part of a URL cannot hold are written as the bytes of their UTF-8 form, each as a
percent sign and two hexadecimal digits. What a part cannot hold is a set of ASCII characters;
characters beyond ASCII are never held.

The sets grow from one another: each of the path, userinfo and query sets adds to a smaller one.
-/

namespace Telemetry.Url

open Text

/-- A set of ASCII characters to be encoded. -/
abbrev EncodeSet := Char → Bool

/-- The control characters. -/
def controlSet : EncodeSet :=
  fun c ↦ c.toNat < 0x20 || c.toNat == 0x7F

/-- What a fragment cannot hold. -/
def fragmentSet : EncodeSet :=
  fun c ↦ controlSet c || " \"<>\u0060".toList.contains c

/-- What a query cannot hold. -/
def querySet : EncodeSet :=
  fun c ↦ controlSet c || " \"#<>".toList.contains c

/-- What a query of a special scheme cannot hold. -/
def specialQuerySet : EncodeSet :=
  fun c ↦ querySet c || c == '\''

/-- What a path cannot hold. -/
def pathSet : EncodeSet :=
  fun c ↦ fragmentSet c || "#?\x7b\x7d".toList.contains c

/-- What user names and passwords cannot hold. -/
def userinfoSet : EncodeSet :=
  fun c ↦ pathSet c || "/:;=@[\\]^|".toList.contains c

/-- A byte as a percent sign and two digits. -/
def encodeByte (b : UInt8) : List Char :=
  let digit (n : Nat) : Char := (Nat.digitChar n).toUpper
  ['%', digit (b.toNat / 16), digit (b.toNat % 16)]

/-- A text with the characters of a set and those beyond ASCII encoded. -/
def percentEncode (set : EncodeSet) (cs : List Char) : String :=
  String.ofList (cs.flatMap fun c ↦
    if 0x80 ≤ c.toNat || set c then (String.singleton c).toUTF8.data.toList.flatMap encodeByte
    else [c])

/-- The bytes of a text whose encoded bytes are put in the place of their codes. -/
def percentDecode : List Char → List UInt8
  | [] => []
  | '%' :: a :: b :: rest =>
    match hexValue? a, hexValue? b with
    | some x, some y => (x * 16 + y).toUInt8 :: percentDecode rest
    | _, _ => '%'.toNat.toUInt8 :: percentDecode (a :: b :: rest)
  | c :: rest => (String.singleton c).toUTF8.data.toList ++ percentDecode rest

end Telemetry.Url
