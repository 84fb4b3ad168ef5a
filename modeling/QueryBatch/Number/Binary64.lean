import QueryBatch.Number.Magnitude

/-!
# Binary64 numbers

A number of the format is a sign and a magnitude, so zero and infinity come with both signs;
beside the numbers stands the value "not a number", of which there is one here.

* `Binary64.ofInt`: the number nearest to an integer.
* `Binary64.hundredths`: a number cut to two decimals.
* `Binary64.saturate`: the whole part inside a range of counts.
* `Binary64.le`: the order in which numbers are listed.
-/

namespace QueryBatch

/-- **Binary64 numbers.** -/
inductive Binary64
  | nan
  | real (negative : Bool) (magnitude : Magnitude)
deriving DecidableEq

namespace Binary64

instance : Inhabited Binary64 := ⟨.real false .zero⟩

def zero : Binary64 := .real false .zero

def one : Binary64 := .real false .one

def infinite : Binary64 := .real false .infinite

/-- Neither infinite nor "not a number". -/
def isFinite : Binary64 → Bool
  | .nan => false
  | .real _ m => m.isFinite

def isPositive : Binary64 → Bool
  | .nan => false
  | .real s m => !s && m.code != 0

def isWhole : Binary64 → Bool
  | .nan => false
  | .real _ m => m.isWhole

/-- The number nearest to a natural number. -/
def ofNat (n : Nat) : Binary64 := .real false (.ofNat n)

def ofInt (i : Int) : Binary64 := .real (decide (i < 0)) (.ofNat i.natAbs)

/-- The exact value of a number in units of 2⁻¹⁰⁷⁴. -/
def units : Binary64 → Int
  | .nan => 0
  | .real s m => if s then -(m.units : Int) else m.units

/-- Changes the magnitude and keeps the sign. -/
def mapMagnitude (f : Magnitude → Magnitude) : Binary64 → Binary64
  | .nan => .nan
  | .real s m => .real s (f m)

/-- **Hundredths**: the number times a hundred, to the nearest whole number with halves away from
zero, over a hundred. Each of the three steps rounds to the format. -/
def hundredths : Binary64 → Binary64 :=
  mapMagnitude fun m => ((m.mul (.ofNat 100)).toNearest).div (.ofNat 100)

/-- The whole part as a natural number up to a limit. Negative numbers and "not a number" count as
zero. -/
def saturate (limit : Nat) : Binary64 → Nat
  | .nan => 0
  | .real s m => if s then 0 else min m.floor limit

/-- The place of a number in the listing order: ascending, a negative zero before zero, and "not a
number" last. -/
def orderKey : Binary64 → Int
  | .nan => Magnitude.topCode + 1
  | .real s m => if s then -(m.code : Int) - 1 else m.code

/-- At or before in the listing order. -/
def le (x y : Binary64) : Bool := decide (x.orderKey ≤ y.orderKey)

end Binary64

end QueryBatch
