/-!
# Magnitudes

The non-negative numbers of the binary64 format, with infinity on top. They are numbered in their
order: the `code` of a magnitude is the count of the magnitudes below it, which is also its bit
pattern. Every finite magnitude is a whole number of *units* of 2⁻¹⁰⁷⁴, so all arithmetic here is
exact arithmetic on natural numbers followed by one rounding.

* `Magnitude.units`: the exact value, in units.
* `Magnitude.round`: the magnitude nearest to a quotient, a tie going to the even code.
* `Magnitude.add`, `mul`, `div`: exact results, rounded once.
-/

namespace QueryBatch

/-- The code of infinity. -/
def Magnitude.topCode : Nat := 2047 * Nat.pow 2 52

/-- **Magnitudes**: a non-negative binary64 number or infinity, known by its place in the order. -/
structure Magnitude where
  code : Nat
  code_le : code ≤ Magnitude.topCode
deriving DecidableEq

namespace Magnitude

/-- The number one, measured in units. -/
def unitsPerOne : Nat := Nat.pow 2 1074

theorem unitsPerOne_pos : 0 < unitsPerOne := by decide +kernel

/-- The value of the code `c` in units. Codes below 2⁵³ are their own value; above, each run of
2⁵² codes has a step twice as long as the run before. -/
def unitsOfCode (c : Nat) : Nat :=
  if c < Nat.pow 2 53 then c
  else (Nat.pow 2 52 + c % Nat.pow 2 52) * Nat.pow 2 (c / Nat.pow 2 52 - 1)

/-- The exact value in units of 2⁻¹⁰⁷⁴; for infinity, the value that the next code would have. -/
def units (x : Magnitude) : Nat := unitsOfCode x.code

instance : Inhabited Magnitude := ⟨⟨0, Nat.zero_le _⟩⟩

def zero : Magnitude := ⟨0, Nat.zero_le _⟩

/-- Above every number of the format. -/
def infinite : Magnitude := ⟨topCode, Nat.le_refl _⟩

/-- A number, not infinity. -/
def isFinite (x : Magnitude) : Bool := x.code < topCode

/-- A magnitude by its code; codes beyond infinity are infinity. -/
def ofCode (c : Nat) : Magnitude := ⟨min c topCode, Nat.min_le_right _ _⟩

/-- The code nearest to `n / d` units. The quotient is cut to 53 significant bits, and what was
cut off decides whether the next code is nearer. -/
def roundCode (n d : Nat) : Nat :=
  let whole := n / d
  let shift := Nat.log2 whole - 52
  let kept := whole / Nat.pow 2 shift
  let rest := 2 * (n - kept * Nat.pow 2 shift * d)
  let step := Nat.pow 2 shift * d
  let code := shift * Nat.pow 2 52 + kept
  if rest < step ∨ (rest = step ∧ code % 2 = 0) then code else code + 1

/-- **Rounding**: the magnitude nearest to the number `n / d`, of two equally near the one with
even code. -/
def round (n d : Nat) : Magnitude := ofCode (roundCode (n * unitsPerOne) d)

/-- The magnitude nearest to a natural number. -/
def ofNat (n : Nat) : Magnitude := round n 1

def one : Magnitude := ofNat 1

/-- The nearest magnitude to a sum. -/
def add (x y : Magnitude) : Magnitude :=
  if x.isFinite && y.isFinite then round (x.units + y.units) unitsPerOne else infinite

/-- The nearest magnitude to a product; a product with infinity is infinite. -/
def mul (x y : Magnitude) : Magnitude :=
  if x.isFinite && y.isFinite then round (x.units * y.units) (unitsPerOne * unitsPerOne)
  else infinite

/-- The nearest magnitude to the quotient by a number that is neither zero nor infinite. -/
def div (x y : Magnitude) : Magnitude :=
  if x.isFinite then round x.units y.units else infinite

def floor (x : Magnitude) : Nat := x.units / unitsPerOne

/-- The nearest whole number, a half going up. -/
def nearestNat (x : Magnitude) : Nat := (2 * x.units + unitsPerOne) / (2 * unitsPerOne)

/-- The nearest whole number as a magnitude, a half going up. -/
def toNearest (x : Magnitude) : Magnitude :=
  if x.isFinite then ofNat x.nearestNat else infinite

/-- A number without fraction. -/
def isWhole (x : Magnitude) : Bool := x.isFinite && x.units % unitsPerOne == 0

end Magnitude

end QueryBatch
