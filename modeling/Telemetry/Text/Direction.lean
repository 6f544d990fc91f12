import Telemetry.Text.Mark

/-!
# Directions of writing

Letters run to the left or to the right. Numbers run to the right, also among letters that run to
the left, and are told apart by the digits that they are written in. Other characters follow their
neighbours.
-/

namespace Telemetry.Text

/-- How the direction of writing depends on a character. -/
inductive Direction where
  | leftToRight
  | rightToLeft
  /-- European digits, and those that behave alike. -/
  | europeanNumber
  /-- Arabic digits, and those that behave alike. -/
  | arabicNumber
  /-- Signs that follow their neighbours. -/
  | neutral
  /-- Marks that follow the character in front of them. -/
  | nonspacing
  deriving DecidableEq, Repr

namespace Direction

/-- Reads a direction. -/
def read (cs : List Char) : Direction :=
  match cs with
  | [':', 'r'] => rightToLeft
  | [':', 'e'] => europeanNumber
  | [':', 'a'] => arabicNumber
  | [':', 'n'] => neutral
  | _ => leftToRight

/-- The directions of characters that are neither nonspacing marks nor run from left to right. -/
def table : CodeTable Direction :=
  .ofText read
  "0-2f:n 30-39:e 3a-60:n 7b-d7:n f7:n 2b9-2ba:n 2c2-2cf:n 2d2-2ed:n 2ef-2ff:n 375:n 3f6:n
  58a-58f:n 5be-5f4:r 606-607:n 608:r 609-60a:n 60b:r 60c:n 60d:r 60e-60f:n 61b-64a:r 660-669:a
  66a:n 66b-66c:a 66d-6d5:r 6de:n 6e5-6e6:r 6e9:n 6ee-6ef:r 6f0-6f9:e 6fa-7f5:r 7f6-7f9:n
  7fa-8c9:r 9f2-9f3:n 9fb:n af1:n bf3-bfa:n c78-c7e:n e3f:n f3a-f3d:n 1390-1399:n
  1400:n 169b-169c:n 17db:n 17f0-180a:n 1940-1945:n 19de-19ff:n 200c-214d:n 218a-2335:n
  237b-2394:n 2396-26ab:n 26ad-27ff:n 2900-2bff:n 2ce5-2cea:n 2cf9-2cff:n 2e00-3004:n 3008-3020:n
  3030:n 3037:n 303d-303f:n 30a0:n 30fb:n 31c0-31e5:n 4dc0-4dff:n a490-a4c6:n a60d-a60f:n
  a673-a67f:n a700-a721:n a788:n a828-a82b:n a838-a839:n a874-a877:n ab6a-ab6b:n fbb2-fbc2:r
  fbc3-fe46:n fe73:r 10101:n 10140-1018c:n 10190-101a0:n 102e1-102fb:e 10800-1091b:r 1091f:n
  10920-10b35:r 10b39-10b3f:n 10b40-10d23:r 10d30-10d49:a 10d4a-10d4f:r 10d6e:n 10d6f-10d8f:r
  10e60-10e7e:a 10e80-10ecb:r 10ed0-10ed8:n 10ed9-10ff6:r 11052-11065:n 11660-1166c:n
  11fd5-11ff1:n 16fe2:n 1cc00-1cef1:n 1d1e9-1d245:n 1d300-1d356:n 1db00:n
  1e2ff:n 1e800-1ed3d:r 1eef0-1f12f:n 1f16d-1f16f:n 1f1ad:n 1f260-1fbfa:n"

/-- The nonspacing marks that run from left to right like letters. -/
def leftToRightMarks : List Nat :=
  [0xCBF, 0xCC6, 0x11A07, 0x11A08, 0x11C3F]

end Direction

/-- The direction of a character. -/
def direction (c : Char) : Direction :=
  if isNonspacing c then
    if Direction.leftToRightMarks.contains c.toNat then .leftToRight else .nonspacing
  else ((Direction.table.find? c).map (·.value)).getD .leftToRight

end Telemetry.Text
