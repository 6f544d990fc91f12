import Telemetry.TimeUnit
import Telemetry.Word

/-!
# Spans of time

A span is a number of nanoseconds. Readings of a clock are spans since its start.

A span is written as a sequence of numbers with units behind them, such as `1h 30m` or `500ms`.
Blanks may stand around the parts, a part needs both a number and a unit, and units are the symbols
of `TimeUnit`, whose case matters. The text `0` stands for itself. Numbers, their products with the
units and the sum must all be words (`Span.parse`).
-/

namespace Telemetry

/-- A number of nanoseconds. -/
structure Span where
  nanos : Nat := 0
  deriving DecidableEq, Repr, Inhabited, Ord

/-- Why a text is not a span. -/
inductive SpanError where
  | emptyInput
  | missingValue
  | missingUnit
  | invalidUnit
  | valueOverflow
  deriving DecidableEq, Repr

/-- The text of a cause. -/
def SpanError.message : SpanError → String
  | emptyInput => "empty input"
  | missingValue => "missing value"
  | missingUnit => "missing unit"
  | invalidUnit => "invalid unit"
  | valueOverflow => "value overflow"

namespace Span

/-- A number of seconds. -/
def ofSeconds (n : Nat) : Span :=
  ⟨n * 1000000000⟩

/-- The whole seconds. -/
def seconds (s : Span) : Nat :=
  s.nanos / 1000000000

/-- The nanoseconds beyond the whole seconds. -/
def subsecond (s : Span) : Nat :=
  s.nanos % 1000000000

/-- The nanoseconds, as far as a word can tell. -/
def word (s : Span) : UInt64 :=
  (min s.nanos maxWord).toUInt64

/-- The seconds as a floating point number: the whole ones and the rest, each rounded, and their
sum. -/
def toSeconds (s : Span) : Float :=
  wordFloat s.seconds + wordFloat s.subsecond / 1000000000.0

instance : Sub Span := ⟨fun a b ↦ ⟨a.nanos - b.nanos⟩⟩

instance : Add Span := ⟨fun a b ↦ ⟨a.nanos + b.nanos⟩⟩

/-- The number that decimal digits stand for. -/
def digitsValue (digits : List Char) : Nat :=
  digits.foldl (fun n c ↦ n * 10 + (c.toNat - '0'.toNat)) 0

/-- The unit with a symbol. -/
def unitOf? (symbol : List Char) : Option TimeUnit :=
  TimeUnit.all.find? fun u ↦ u.symbol.toList == symbol

/-- Reads the parts of a span and adds them to a sum. -/
def parseParts (sum : Nat) (cs : List Char) : Except SpanError Span :=
  match _h : Text.dropBlanks cs with
  | [] => .ok ⟨sum⟩
  | c :: rest =>
    if !c.isDigit then .error .missingValue
    else
      let digits := c :: rest.takeWhile Char.isDigit
      let behind := rest.dropWhile Char.isDigit
      let symbol := behind.takeWhile fun c ↦ !c.isDigit
      -- a number that is too large is at fault even without a unit
      if maxWord < digitsValue digits then .error .valueOverflow
      else if symbol.isEmpty then .error .missingUnit
      else
        -- blanks with a digit behind them are a symbol too, of no unit
        match unitOf? (Text.trimBlanks symbol) with
        | none => .error .invalidUnit
        | some unit =>
          let sum := sum + digitsValue digits * unit.nanos.toNat
          if maxWord < sum then .error .valueOverflow
          else parseParts sum (behind.dropWhile fun c ↦ !c.isDigit)
termination_by cs.length
decreasing_by
  have h₁ : (Text.dropBlanks cs).length ≤ cs.length := (List.dropWhile_sublist _).length_le
  have h₂ : (rest.dropWhile Char.isDigit).length ≤ rest.length :=
    (List.dropWhile_sublist _).length_le
  have h₃ : ((rest.dropWhile Char.isDigit).dropWhile fun c ↦ !c.isDigit).length ≤
      (rest.dropWhile Char.isDigit).length := (List.dropWhile_sublist _).length_le
  rw [_h, List.length_cons] at h₁
  omega

/-- The span that a text writes. -/
def parse (s : String) : Except SpanError Span :=
  match Text.trimBlanks s.toList with
  | [] => .error .emptyInput
  | ['0'] => .ok ⟨0⟩
  | cs => parseParts 0 cs

end Span

end Telemetry
