import QueryBatch.Number.Magnitude

/-!
# Shortest decimals

The text of a number has the fewest digits that are read back as the same number. The decimals
that read back as a magnitude are those between the midpoints to its two neighbours; the midpoints
themselves belong to the even code. For one, two, … seventeen digits the two decimals next to the
value are tested, and the first count of digits with a hit wins. Of two hits the nearer is taken,
and a `Tie` says which of two equally near ones.

* `Decimal`: a significand times a power of ten.
* `Decimal.ReadsBack`: a decimal between the midpoints.
* `Decimal.shortest`: the shortest decimal of a magnitude.
-/

namespace QueryBatch

/-- **Decimals**: `significand * 10 ^ exponent`. -/
structure Decimal where
  significand : Nat
  exponent : Int
deriving DecidableEq, Inhabited

/-- Which of two equally near decimals is taken. -/
inductive Tie
  | even
  | up
deriving DecidableEq

namespace Decimal

/-- The greatest `k` with `10 ^ k ≤ n`, and zero for zero. -/
def leadingPlace (n : Nat) : Nat :=
  if n < 10 then 0 else leadingPlace (n / 10) + 1
termination_by n

/-- The place of the leading digit. -/
def place (d : Decimal) : Int := leadingPlace d.significand + d.exponent

def digits (d : Decimal) : List Char := Nat.toDigits 10 d.significand

/-- Numerator and denominator of a power of ten. -/
def scale (e : Int) : Nat × Nat := (Nat.pow 10 e.toNat, Nat.pow 10 (-e).toNat)

/-- The two midpoints around the magnitude with code `c`, in halves of a unit. -/
def midpoints (c : Nat) : Nat × Nat :=
  (Magnitude.unitsOfCode (c - 1) + Magnitude.unitsOfCode c,
    Magnitude.unitsOfCode c + Magnitude.unitsOfCode (c + 1))

/-- A decimal between the midpoints around a magnitude; on a midpoint it reads back if the code is
even. -/
def ReadsBack (x : Magnitude) (d : Decimal) : Prop :=
  let here := 2 * d.significand * Magnitude.unitsPerOne * (scale d.exponent).1
  let low := (midpoints x.code).1 * (scale d.exponent).2
  let high := (midpoints x.code).2 * (scale d.exponent).2
  if x.code % 2 = 0 then low ≤ here ∧ here ≤ high else low < here ∧ here < high

instance (x : Magnitude) (d : Decimal) : Decidable (ReadsBack x d) := by
  unfold ReadsBack; infer_instance

/-- The distance between a magnitude and a decimal, up to a factor that depends on the exponent
only. -/
def distance (x : Magnitude) (d : Decimal) : Nat :=
  let here := d.significand * Magnitude.unitsPerOne * (scale d.exponent).1
  let there := x.units * (scale d.exponent).2
  (here - there) + (there - here)

/-- The greatest decimal with the given exponent that is not above the magnitude. -/
def below (x : Magnitude) (e : Int) : Decimal :=
  ⟨x.units * (scale e).2 / (Magnitude.unitsPerOne * (scale e).1), e⟩

/-- The next decimal with the same exponent. -/
def next (d : Decimal) : Decimal := ⟨d.significand + 1, d.exponent⟩

/-- The better of the two decimals next to a magnitude, if one of them reads back. -/
def onGrid (tie : Tie) (x : Magnitude) (e : Int) : Option Decimal :=
  let lo := below x e
  let hi := lo.next
  if ReadsBack x lo then
    if ReadsBack x hi then
      if distance x lo < distance x hi then some lo
      else if distance x hi < distance x lo then some hi
      else match tie with
        | .up => some hi
        | .even => some (if lo.significand % 2 = 0 then lo else hi)
    else some lo
  else if ReadsBack x hi then some hi
  else none

/-- The place of the leading digit of a magnitude other than zero. The least magnitude has its
leading digit at place -324. -/
def placeOf (x : Magnitude) : Int :=
  leadingPlace (x.units * Nat.pow 10 324 / Magnitude.unitsPerOne) - 324

/-- Moves zeros at the end of the significand into the exponent; zero has the exponent zero. -/
def strip (d : Decimal) : Decimal :=
  if h : d.significand = 0 then ⟨0, 0⟩
  else if d.significand % 10 = 0 then strip ⟨d.significand / 10, d.exponent + 1⟩
  else d
termination_by d.significand
decreasing_by exact Nat.div_lt_self (Nat.pos_of_ne_zero h) (by decide)

/-- **The shortest decimal** that reads back as a finite magnitude. Seventeen digits always
suffice; the exact decimal stands last, so that the function is total. -/
def shortest (tie : Tie) (x : Magnitude) : Decimal :=
  if x.code = 0 then ⟨0, 0⟩
  else
    let exact : Decimal := ⟨x.units * Nat.pow 10 1074 / Magnitude.unitsPerOne, -1074⟩
    strip (((List.range 17).findSome? fun (n : Nat) => onGrid tie x (placeOf x - n)).getD exact)

end Decimal

end QueryBatch
