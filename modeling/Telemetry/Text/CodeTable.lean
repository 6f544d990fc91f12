import Telemetry.Text.Hex

/-!
# Tables by code point

A property of characters is a table of ranges of code points, in ascending order, each with a value.
`CodeTable.find?` looks a code point up by halving the ranges that may hold it.

Tables are written as text: rows with blanks or line breaks between them, each of them one code
point or two with a hyphen between them, in hexadecimal digits, and the value behind them
(`CodeTable.ofText`). How values are written is up to the table.
-/

namespace Telemetry.Text

/-- A range of code points and its value. -/
structure CodeRange (α : Type) where
  first : Nat
  last : Nat
  value : α

namespace CodeRange

/-- Reads a row, given how values are read. -/
def ofRow {α : Type} (value : List Char → α) (row : List Char) : CodeRange α :=
  match readHex 0 row with
  | (first, '-' :: rest) =>
    let (last, rest) := readHex 0 rest
    ⟨first, last, value rest⟩
  | (first, rest) => ⟨first, first, value rest⟩

end CodeRange

/-- A table by code point: ranges in ascending order. -/
structure CodeTable (α : Type) where
  ranges : Array (CodeRange α)

namespace CodeTable

variable {α : Type}

/-- The parts of a text between blanks and line breaks. -/
def rows (text : String) : List (List Char) :=
  (text.toList.splitBy fun a b ↦ a.isWhitespace == b.isWhitespace).filter fun row ↦
    row.head?.any fun c ↦ !c.isWhitespace

/-- The table that a text writes, given how values are read. -/
def ofText (value : List Char → α) (text : String) : CodeTable α :=
  ⟨((rows text).map (CodeRange.ofRow value)).toArray⟩

/-- The range that holds a code point, among so many from a place on. -/
def search (t : CodeTable α) (n start count : Nat) : Option (CodeRange α) :=
  if count = 0 then none
  else
    match t.ranges[start + count / 2]? with
    | none => none
    | some r =>
      if n < r.first then search t n start (count / 2)
      else if r.last < n then search t n (start + count / 2 + 1) (count - count / 2 - 1)
      else some r
termination_by count
decreasing_by all_goals omega

/-- The range that holds a character. -/
def find? (t : CodeTable α) (c : Char) : Option (CodeRange α) :=
  t.search c.toNat 0 t.ranges.size

/-- Whether some range holds a character. -/
def contains (t : CodeTable α) (c : Char) : Bool :=
  (t.find? c).isSome

end CodeTable

end Telemetry.Text
