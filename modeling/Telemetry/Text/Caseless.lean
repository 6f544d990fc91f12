/-!
# Words that are compared without regard to case

Unit names, option names and switches are ASCII words, and their case does not matter. Two kinds of
characters have an ASCII letter as their lower case: the ASCII capitals, and the Kelvin sign
`U+212A`, whose lower case is `k`. Every other character keeps apart from ASCII when it is lowered,
so `Text.lower` may leave it as it is: whether the lowered text equals an ASCII word comes out the
same.
-/

namespace Telemetry.Text

/-- The lower case of a character, where that is an ASCII letter. -/
def lowerChar (c : Char) : Char :=
  if c = '\u212A' then 'k' else c.toLower

/-- A text with every character lowered that has an ASCII lower case. -/
def lower (s : String) : String :=
  s.map lowerChar

/-- The value listed under the word that a text spells, case aside. -/
def lookup? {α : Type} (table : List (List String × α)) (s : String) : Option α :=
  (table.find? fun entry ↦ entry.1.contains (lower s)).map (·.2)

end Telemetry.Text
