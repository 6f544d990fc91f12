/-!
# Labels in ASCII

A label that holds characters beyond ASCII is written with its ASCII characters, and behind a hyphen
the positions and values of the others, as numbers of variable length whose digits are adapted to
the distances between them. `decode?` reads what `encode` writes.
-/

namespace Telemetry.Url

namespace Punycode

/-- The number of digits. -/
def base : Nat :=
  36

/-- The digit of a value: letters first. -/
def digit (n : Nat) : Char :=
  if n < 26 then Char.ofNat (n + 'a'.toNat) else Char.ofNat (n - 26 + '0'.toNat)

/-- Halves a distance towards the balanced one and counts the steps. -/
def balance (delta : Nat) (k : Nat) : Nat :=
  if h : 455 < delta then balance (delta / 35) (k + base)
  else k + 36 * delta / (delta + 38)
termination_by delta
decreasing_by omega

/-- The threshold offset after a distance was written. -/
def adapt (delta points : Nat) (first : Bool) : Nat :=
  let delta := if first then delta / 700 else delta / 2
  balance (delta + delta / points) 0

/-- The threshold of a digit. -/
def threshold (k bias : Nat) : Nat :=
  max 1 (min 26 (k - bias))

/-- A number in digits of variable worth, the least first. -/
def writeNumber (fuel q k bias : Nat) : List Char :=
  match fuel with
  | 0 => []
  | fuel + 1 =>
    let t := threshold k bias
    if q < t then [digit q]
    else digit (t + (q - t) % (base - t)) :: writeNumber fuel ((q - t) / (base - t)) (k + base) bias

/-- What is known while the characters above ASCII are written, one value at a time. -/
structure State where
  next : Nat := 128
  delta : Nat := 0
  bias : Nat := 72
  handled : Nat
  output : List Char := []

/-- The state after all occurrences of a value were written. -/
def writeValue (input : List Nat) (basic m : Nat) (s : State) : State :=
  let start := { s with delta := s.delta + (m - s.next) * (s.handled + 1) }
  let after := input.foldl
    (fun s c ↦
      if c < m then { s with delta := s.delta + 1 }
      else if c = m then
        { s with
          output := s.output ++ writeNumber 64 s.delta base s.bias
          bias := adapt s.delta (s.handled + 1) (s.handled == basic)
          delta := 0
          handled := s.handled + 1 }
      else s)
    start
  { after with delta := after.delta + 1, next := m + 1 }

/-- A label in ASCII. -/
def encode (label : List Char) : List Char :=
  let input := label.map Char.toNat
  let basic := label.filter fun c ↦ c.toNat < 128
  let values := ((input.filter (128 ≤ ·)).mergeSort fun a b ↦ decide (a ≤ b)).eraseDups
  let s := values.foldl (fun s m ↦ writeValue input basic.length m s) { handled := basic.length }
  basic ++ (if basic.isEmpty then [] else ['-']) ++ s.output

/-- The value of a digit. -/
def value? (c : Char) : Option Nat :=
  if 'a' ≤ c ∧ c ≤ 'z' then some (c.toNat - 'a'.toNat)
  else if '0' ≤ c ∧ c ≤ '9' then some (c.toNat - '0'.toNat + 26)
  else none

/-- Reads a number in digits of variable worth: the number and the digits behind it. -/
def readNumber (k bias worth : Nat) : List Char → Option (Nat × List Char)
  | [] => none
  | c :: rest => do
    let d ← value? c
    let t := threshold k bias
    if d < t then some (d * worth, rest)
    else
      let (n, rest) ← readNumber (k + base) bias (worth * (base - t)) rest
      some (d * worth + n, rest)

/-- Puts the characters that digits describe among those known so far; `last` is the value of the
latest and `position` the place behind it. -/
def insertAll (fuel last position bias : Nat) (known : List Char) (digits : List Char) :
    Option (List Char) :=
  match fuel, digits with
  | _, [] => some known
  | 0, _ => none
  | fuel + 1, digits => do
    let (delta, rest) ← readNumber base bias 1 digits
    let places := known.length + 1
    let value := last + (position + delta) / places
    let place := (position + delta) % places
    if Nat.isValidChar value then
      insertAll fuel value (place + 1) (adapt delta places (known.all fun c ↦ c.toNat < 128))
        (known.take place ++ Char.ofNat value :: known.drop place) rest
    else none

/-- The label behind its form in ASCII. A hyphen in front of the digits is there only to part ASCII
characters from them. -/
def decode? (cs : List Char) : Option (List Char) :=
  let digits := (cs.reverse.takeWhile (· ≠ '-')).reverse
  let known := cs.take (cs.length - digits.length - 1)
  if cs.head? = some '-' && known.isEmpty || known.any fun c ↦ 128 ≤ c.toNat then none
  else insertAll digits.length 128 0 72 known digits

end Punycode

end Telemetry.Url
