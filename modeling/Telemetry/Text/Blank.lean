/-!
# Blank characters and trimmed text

The characters that count as blank around a name or a value are those with the Unicode property
`White_Space`; there are twenty-five of them, in ten ranges (`Text.blankRanges`).

`Text.trim` removes blanks from both ends of a text and nothing from its inside: the result neither
begins nor ends with a blank (`Text.trimBlanks`, on lists of characters).
-/

namespace Telemetry.Text

/-- The code points with the property `White_Space`, as closed ranges. -/
def blankRanges : List (Nat × Nat) :=
  [(0x09, 0x0D), (0x20, 0x20), (0x85, 0x85), (0xA0, 0xA0), (0x1680, 0x1680), (0x2000, 0x200A),
    (0x2028, 0x2029), (0x202F, 0x202F), (0x205F, 0x205F), (0x3000, 0x3000)]

/-- Whether a character is blank. -/
def isBlank (c : Char) : Bool :=
  blankRanges.any fun r ↦ r.1 ≤ c.toNat && c.toNat ≤ r.2

/-- Every blank of the core library is a blank here. -/
theorem isBlank_of_isWhitespace {c : Char} (h : c.isWhitespace) : isBlank c := by
  simp only [Char.isWhitespace, Bool.or_eq_true, decide_eq_true_eq] at h
  rcases h with ((rfl | rfl) | rfl) | rfl <;> decide

/-- A list of characters without the blanks at its front. -/
def dropBlanks (cs : List Char) : List Char :=
  cs.dropWhile isBlank

/-- A list of characters without the blanks at its two ends. -/
def trimBlanks (cs : List Char) : List Char :=
  (dropBlanks (dropBlanks cs).reverse).reverse

/-- A text without the blanks at its two ends. -/
def trim (s : String) : String :=
  String.ofList (trimBlanks s.toList)

/-- The trimmed text, or nothing when the text holds only blanks. -/
def nonBlank? (s : String) : Option String :=
  if (trim s).isEmpty then none else some (trim s)

end Telemetry.Text
