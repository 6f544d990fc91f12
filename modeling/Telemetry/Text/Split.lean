/-!
# Text cut into parts

`splitAt` cuts text at every occurrence of a character; there is always one part more than there are
occurrences.
-/

namespace Telemetry.Text

/-- The parts of a text between occurrences of a character. -/
def splitAt (separator : Char) (cs : List Char) : List (List Char) :=
  cs.foldr
    (fun c parts ↦
      if c = separator then [] :: parts
      else
        match parts with
        | [] => [[c]]
        | part :: rest => (c :: part) :: rest)
    [[]]

end Telemetry.Text
