import Telemetry.Double
import Telemetry.Wire.Varint

/-!
# Numbered fields

A message is a sequence of fields. Each field has a number and a value, whose form its key tells:
a word of variable length, eight bytes, four bytes, or bytes with their length in front. There is
also an old form, the group: fields between a pair of keys, which may be nested. Messages here never
write groups or four bytes, but skip them where they meet them.

* `Field.encodeAll` writes fields one after another.
* `Field.parse?` splits bytes into fields. It refuses keys beyond 32 bits, the number zero, unknown
  forms, and values that end too early; groups must close in order and nest less deeply than a
  limit.
-/

namespace Telemetry.Wire

/-- The value of a field, by its form. -/
inductive Value where
  | word (n : UInt64)
  | eight (n : UInt64)
  | bytes (b : List UInt8)
  | four (b : List UInt8)
  /-- A group, whose fields are not kept. -/
  | group
  deriving DecidableEq, Repr

/-- A numbered value. -/
structure Field where
  number : Nat
  value : Value
  deriving DecidableEq, Repr

/-- The forms of values as keys tell them. -/
inductive Form where
  | word
  | eight
  | bytes
  | groupStart
  | groupEnd
  | four
  deriving DecidableEq, Repr

namespace Form

/-- The three bits of a form in a key. -/
def code : Form → Nat
  | word => 0
  | eight => 1
  | bytes => 2
  | groupStart => 3
  | groupEnd => 4
  | four => 5

/-- The form with a code; two of the eight codes have none. -/
def ofCode? : Nat → Option Form
  | 0 => some word
  | 1 => some eight
  | 2 => some bytes
  | 3 => some groupStart
  | 4 => some groupEnd
  | 5 => some four
  | _ => none

theorem ofCode?_code (f : Form) : ofCode? f.code = some f := by
  cases f <;> rfl

theorem code_lt (f : Form) : f.code < 8 := by
  cases f <;> decide

end Form

/-- The least bytes of a number first, as many as asked for. -/
def littleEndian : Nat → Nat → List UInt8
  | 0, _ => []
  | k + 1, n => n.toUInt8 :: littleEndian k (n / 256)

/-- The number that bytes hold, the lowest byte first. -/
def ofLittleEndian : List UInt8 → Nat
  | [] => 0
  | b :: rest => b.toNat + 256 * ofLittleEndian rest

/-- As many bytes as asked for, and the bytes behind them. -/
def takeBytes? (n : Nat) (bytes : List UInt8) : Option (List UInt8 × List UInt8) :=
  if n ≤ bytes.length then some (bytes.take n, bytes.drop n) else none

/-- The key of a field. -/
def writeKey (number : Nat) (form : Form) : List UInt8 :=
  Varint.writeNat (number * 8 + form.code)

/-- Reads a key: the number of a field, its form and the bytes behind. -/
def readKey? (bytes : List UInt8) : Option (Nat × Form × List UInt8) := do
  let (key, rest) ← Varint.read? bytes
  if key.toNat < Nat.pow 2 32 then
    let form ← Form.ofCode? (key.toNat % 8)
    if key.toNat / 8 = 0 then none else some (key.toNat / 8, form, rest)
  else none

/-- Reads bytes with their length in front. -/
def readBytes? (bytes : List UInt8) : Option (List UInt8 × List UInt8) := do
  let (length, rest) ← Varint.read? bytes
  takeBytes? length.toNat rest

/-- Passes over the fields of groups until the open ones are closed, the innermost first. No more
than `limit` groups may be open around a field. -/
def skipGroups? (limit : Nat) : Nat → List Nat → List UInt8 → Option (List UInt8)
  | _, [], bytes => some bytes
  | 0, _ :: _, _ => none
  | fuel + 1, innermost :: outer, bytes => do
    let (number, form, rest) ← readKey? bytes
    -- the end of a group is free of the limit
    if form = .groupEnd then
      if number = innermost then skipGroups? limit fuel outer rest else none
    else if limit ≤ outer.length + 1 then none
    else
      match form with
      | .groupStart => skipGroups? limit fuel (number :: innermost :: outer) rest
      | .word => do skipGroups? limit fuel (innermost :: outer) (← Varint.read? rest).2
      | .eight => do skipGroups? limit fuel (innermost :: outer) (← takeBytes? 8 rest).2
      | .four => do skipGroups? limit fuel (innermost :: outer) (← takeBytes? 4 rest).2
      | .bytes => do skipGroups? limit fuel (innermost :: outer) (← readBytes? rest).2
      | .groupEnd => none

/-- Reads the value of a field of a form, and the bytes behind it. -/
def readValue? (limit number : Nat) (form : Form) (bytes : List UInt8) :
    Option (Value × List UInt8) :=
  match form with
  | .word => (Varint.read? bytes).map fun r ↦ (.word r.1, r.2)
  | .eight => (takeBytes? 8 bytes).map fun r ↦ (.eight (ofLittleEndian r.1).toUInt64, r.2)
  | .four => (takeBytes? 4 bytes).map fun r ↦ (.four r.1, r.2)
  | .bytes => (readBytes? bytes).map fun r ↦ (.bytes r.1, r.2)
  | .groupStart => (skipGroups? limit bytes.length [number] bytes).map fun r ↦ (.group, r)
  | .groupEnd => none

namespace Field

/-- The bytes of a field. -/
def encode (f : Field) : List UInt8 :=
  match f.value with
  | .word n => writeKey f.number .word ++ Varint.write n
  | .eight n => writeKey f.number .eight ++ littleEndian 8 n.toNat
  | .bytes b => writeKey f.number .bytes ++ Varint.writeNat b.length ++ b
  | .four b => writeKey f.number .four ++ b
  | .group => writeKey f.number .groupStart ++ writeKey f.number .groupEnd

/-- The bytes of fields, one after another. -/
def encodeAll (fields : List Field) : List UInt8 :=
  fields.flatMap encode

/-- Reads fields until the bytes end; every field takes at least one of the `fuel` bytes. -/
def parseFrom? (limit : Nat) : Nat → List UInt8 → Option (List Field)
  | _, [] => some []
  | 0, _ :: _ => none
  | fuel + 1, bytes => do
    let (number, form, rest) ← readKey? bytes
    let (value, rest) ← readValue? limit number form rest
    return ⟨number, value⟩ :: (← parseFrom? limit fuel rest)

/-- The fields that bytes hold, if they hold nothing but fields. -/
def parse? (limit : Nat) (bytes : List UInt8) : Option (List Field) :=
  parseFrom? limit bytes.length bytes

/-! ## Fields with values of the types that messages have -/

/-- A word, left out when it is zero. -/
def ofWord (number : Nat) (n : UInt64) : List Field :=
  if n = 0 then [] else [⟨number, .word n⟩]

/-- A signed code, widened with its sign; left out when it is zero. -/
def ofCode (number : Nat) (n : Int32) : List Field :=
  ofWord number n.toInt64.toUInt64

/-- A double, left out when it is zero. -/
def ofDouble (number : Nat) (d : Double) : List Field :=
  if d.isZero then [] else [⟨number, .eight d.bits⟩]

/-- A text. -/
def ofText (number : Nat) (s : String) : Field :=
  ⟨number, .bytes s.toByteArray.data.toList⟩

/-- A text, left out when it is empty. -/
def ofName (number : Nat) (s : String) : List Field :=
  if s.isEmpty then [] else [ofText number s]

/-- A text that may be absent. -/
def ofText? (number : Nat) (s : Option String) : List Field :=
  s.toList.map (ofText number)

/-- A message, written as bytes. -/
def ofMessage (number : Nat) (fields : List Field) : Field :=
  ⟨number, .bytes (encodeAll fields)⟩

/-- The word of a field, if that is its form. -/
def word? (f : Field) : Option UInt64 :=
  match f.value with
  | .word n => some n
  | _ => none

/-- The lower half of the word of a field, as a signed code. -/
def code? (f : Field) : Option Int32 :=
  f.word?.map fun n ↦ n.toUInt32.toInt32

/-- The double of a field, if that is its form. -/
def double? (f : Field) : Option Double :=
  match f.value with
  | .eight n => some ⟨n⟩
  | _ => none

/-- The bytes of a field, if that is its form. -/
def bytes? (f : Field) : Option (List UInt8) :=
  match f.value with
  | .bytes b => some b
  | _ => none

/-- The text of a field, if it holds the UTF-8 form of one. -/
def text? (f : Field) : Option String :=
  f.bytes?.bind fun b ↦ String.fromUTF8? ⟨b.toArray⟩

/-- The fields of a message inside a field, of which `limit` groups may be nested. -/
def message? (limit : Nat) (f : Field) : Option (List Field) :=
  f.bytes?.bind (parse? limit)

end Field

end Telemetry.Wire
