import Telemetry.Text.Composition
import Telemetry.Text.Direction
import Telemetry.Text.Joining
import Telemetry.Url.Address
import Telemetry.Url.HostChar
import Telemetry.Url.Punycode

/-!
# Names of hosts

The name of a host is labels with points between them. Each character is put in the place of what it
stands for, and the text is composed (`hostText?`). Then the labels are written in ASCII: one with
other characters in the form of `Punycode`, behind `xn--`.

A label that is already in this form is taken apart to see what it stands for, and it must stand for
a label that would be written just so (`encodedLabel?`).

Labels with characters beyond ASCII keep further rules: a label does not begin with a mark, the
characters that join or part letters stand only where they change something (`joinersFit`), and
in a name with letters that run from right to left each label runs in one direction (`runsOneWay`).
-/

namespace Telemetry.Url

open Text

/-- The characters that no name of a host may hold: control characters, the blank, and those that
part a URL. -/
def forbiddenInDomain (c : Char) : Bool :=
  c.toNat ≤ 0x20 || c.toNat == 0x7F || "%#/:<>?@[\\]^|".toList.contains c

/-- The text that characters stand for in the name of a host. -/
def hostText? (cs : List Char) : Option (List Char) := do
  let text := compose (← cs.mapM hostImage?).flatten
  if text.any forbiddenInDomain then none else some text

/-- What an encoded label begins with. -/
def encodedPrefix : List Char :=
  "xn--".toList

/-- The longest code of a label that is read. -/
def maxCodeLength : Nat :=
  2000

/-- The longest label that is encoded. -/
def maxLabelLength : Nat :=
  1000

/-- The label behind a code: it is composed, and all its characters stand for themselves. -/
def encodedLabel? (code : List Char) : Option (List Char) :=
  if maxCodeLength < code.length then none
  else
    (Punycode.decode? code).filter fun label ↦
      label.any (fun c ↦ 128 ≤ c.toNat) && hostText? label == some label

/-- The text of a label, whichever form it has. -/
def labelText? (label : List Char) : Option (List Char) :=
  if encodedPrefix.isPrefixOf label then encodedLabel? (label.drop encodedPrefix.length)
  else some label

/-! ## The rules of labels -/

/-- Whether the characters that join and part letters stand where they change something, given the
characters before in reverse. A virama in front of them is enough; the one that parts may also stand
between letters that would join. -/
def joinersFit (before : List Char) : List Char → Bool
  | [] => true
  | c :: rest =>
    let followsVirama := before.head?.any fun b ↦ combiningClass b == Mark.virama
    (if c = '\u200D' then followsVirama
      else if c = '\u200C' then
        followsVirama || (joinsNearest .left before && joinsNearest .right rest)
      else true) &&
      joinersFit (c :: before) rest

/-- Whether a label may be written: it does not begin with a mark, its joiners fit, and it is not
too long to encode. -/
def labelFits (label : List Char) : Bool :=
  label.all (fun c ↦ c.toNat < 128) ||
    (!label.head?.any isMark && joinersFit [] label && label.length ≤ maxLabelLength)

/-- Whether a label runs in one direction: it begins with a letter, all characters keep to the
direction of that letter, and it ends with a letter or number, marks aside. -/
def runsOneWay (label : List Char) : Bool :=
  let directions := label.map direction
  let rest := ((directions.drop 1).reverse.dropWhile (· == .nonspacing)).reverse
  match directions.head? with
  | none => true
  | some .leftToRight =>
    rest.all ([.leftToRight, .europeanNumber, .neutral, .nonspacing].contains ·) &&
      rest.getLast?.all ([.leftToRight, .europeanNumber].contains ·)
  | some .rightToLeft =>
    rest.all (· != .leftToRight) &&
      rest.getLast?.all ([.rightToLeft, .europeanNumber, .arabicNumber].contains ·) &&
      !(rest.contains .europeanNumber && rest.contains .arabicNumber)
  | some _ => false

/-- Whether labels are written from right to left in some place. -/
def hasRightToLeft (labels : List (List Char)) : Bool :=
  labels.any fun label ↦ label.any fun c ↦ [.rightToLeft, .arabicNumber].contains (direction c)

/-- A label in ASCII. -/
def asciiLabel (label : List Char) : List Char :=
  if label.all fun c ↦ c.toNat < 128 then label
  else encodedPrefix ++ Punycode.encode label

/-- The name of a host in ASCII, if it keeps the rules. -/
def asciiDomain? (name : List Char) : Option (List Char) := do
  let labels ← (splitAt '.' (← hostText? name)).mapM labelText?
  if labels.all labelFits && (!hasRightToLeft labels || labels.all runsOneWay) then
    some (['.'].intercalate (labels.map asciiLabel))
  else none

end Telemetry.Url
