/-!
# Hexadecimal numbers

Digits are read in either case and written in lower case.

* `Text.hexValue`: the number that some digits stand for.
* `Text.hexDigits`: the digits of a number, without leading zeros.
-/

namespace QueryBatch.Text

/-- The value of a hexadecimal digit. -/
def hexValue? (c : Char) : Option Nat :=
  if c.isDigit then some (c.toNat - '0'.toNat)
  else if 'a' ≤ c ∧ c ≤ 'f' then some (c.toNat - 'a'.toNat + 10)
  else if 'A' ≤ c ∧ c ≤ 'F' then some (c.toNat - 'A'.toNat + 10)
  else none

def isHexDigit (c : Char) : Bool := (hexValue? c).isSome

/-- The number that some digits stand for; what is no digit counts as zero. -/
def hexValue (digits : List Char) : Nat :=
  digits.foldl (fun n c => 16 * n + (hexValue? c).getD 0) 0

def hexDigits (n : Nat) : List Char := Nat.toDigits 16 n

end QueryBatch.Text
