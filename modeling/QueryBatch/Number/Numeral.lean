import QueryBatch.Number.Binary64
import QueryBatch.Number.Decimal

/-!
# Numbers written as text

Two grammars are read here. A *count* is an optional plus sign and decimal digits. A *real* is an
optional sign followed by `inf`, `infinity` or `nan` in any case, or by decimal digits with an
optional point among them (at least one digit in all) and an optional exponent.

* `Decimal.toMagnitude`: the magnitude nearest to a decimal.
* `Numeral.count?`: a count within a limit.
* `Numeral.real?`: the binary64 number nearest to a real.
-/

namespace QueryBatch

/-- The magnitude nearest to a decimal. A leading digit at place 310 is beyond the greatest
number, one at place -330 is below half of the least. -/
def Decimal.toMagnitude (d : Decimal) : Magnitude :=
  if d.significand = 0 then .zero
  else if 310 ≤ d.place then .infinite
  else if d.place ≤ -330 then .zero
  else .round (d.significand * (Decimal.scale d.exponent).1) (Decimal.scale d.exponent).2

namespace Numeral

def digitValue (c : Char) : Nat := c.toNat - '0'.toNat

/-- The number that a list of decimal digits stands for. -/
def value (digits : List Char) : Nat := digits.foldl (fun n c => 10 * n + digitValue c) 0

/-- A nonempty list of decimal digits. -/
def isDigits (cs : List Char) : Bool := !cs.isEmpty && cs.all Char.isDigit

/-- Reads an optional plus sign and decimal digits, refusing a value above the limit. -/
def count? (limit : Nat) (cs : List Char) : Option Nat :=
  let digits := match cs with
    | '+' :: rest => rest
    | _ => cs
  if isDigits digits && decide (value digits ≤ limit) then some (value digits) else none

/-- Splits off the exponent part, which starts at the first letter `e`. With no such letter the
exponent is zero. -/
def exponent? (cs : List Char) : Option Int :=
  match cs with
  | [] => some 0
  | _ :: '-' :: digits => if isDigits digits then some (-(value digits : Int)) else none
  | _ :: '+' :: digits => if isDigits digits then some (value digits) else none
  | _ :: digits => if isDigits digits then some (value digits) else none

/-- Reads digits with an optional point and an optional exponent. -/
def decimal? (cs : List Char) : Option Decimal :=
  let isMark (c : Char) : Bool := c == 'e' || c == 'E'
  let mantissa := cs.takeWhile (!isMark ·)
  let whole := mantissa.takeWhile (· != '.')
  let fraction := (mantissa.dropWhile (· != '.')).drop 1
  if isDigits (whole ++ fraction) then
    (exponent? (cs.dropWhile (!isMark ·))).map fun e =>
      ⟨value (whole ++ fraction), e - fraction.length⟩
  else none

/-- Reads a real without its sign. -/
def unsigned? (cs : List Char) : Option Binary64 :=
  let name := cs.map Char.toLower
  if name = ['i', 'n', 'f'] ∨ name = ['i', 'n', 'f', 'i', 'n', 'i', 't', 'y'] then some .infinite
  else if name = ['n', 'a', 'n'] then some .nan
  else (decimal? cs).map fun d => .real false d.toMagnitude

def opposite : Binary64 → Binary64
  | .nan => .nan
  | .real s m => .real (!s) m

/-- Reads an optional sign and a real. -/
def real? (cs : List Char) : Option Binary64 :=
  match cs with
  | '-' :: rest => (unsigned? rest).map opposite
  | '+' :: rest => unsigned? rest
  | _ => unsigned? cs

end Numeral

end QueryBatch
