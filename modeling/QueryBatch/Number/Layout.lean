import QueryBatch.Number.Binary64
import QueryBatch.Number.Decimal

/-!
# Layouts of number text

A layout says how the digits of a number are laid out: for which places of the leading digit the
number is written in full and for which with an exponent, whether a whole number keeps a point,
and how an exponent is signed. Three layouts are in use: one for JSON text, one for bucket widths,
one for vector components.

* `Layout.write`: the text of a number in a layout.
-/

namespace QueryBatch

/-- **Layouts** of number text. -/
structure Layout where
  /-- The places of the leading digit, from the first up to but without the second, for which a
  number is written in full; with none every number is. -/
  fullPlaces : Option (Int × Int)
  /-- A whole number written in full ends in a point and a zero. -/
  keepsPoint : Bool
  /-- A positive exponent has a plus sign. -/
  signsExponent : Bool
  /-- Which of two equally near decimals is written. -/
  tie : Tie

namespace Layout

/-- JSON text: in full from 0.00001 to below 10¹⁶. -/
def json : Layout := ⟨some (-5, 16), true, true, .even⟩

/-- Bucket widths: in full from 0.0001 to below 10¹⁶. -/
def width : Layout := ⟨some (-4, 16), true, false, .up⟩

/-- Vector components: always in full and without a superfluous point. -/
def component : Layout := ⟨none, false, false, .up⟩

/-- A number with the given leading place is written in full. -/
def isFull (l : Layout) (place : Int) : Bool :=
  match l.fullPlaces with
  | none => true
  | some (lo, hi) => lo ≤ place && place < hi

/-- Digits in full, the last of them standing at place `e`. -/
def full (l : Layout) (digits : List Char) (e : Int) : List Char :=
  if 0 ≤ e then
    digits ++ List.replicate e.toNat '0' ++ (if l.keepsPoint then ['.', '0'] else [])
  else
    let fraction := (-e).toNat
    let padded := List.replicate (fraction + 1 - digits.length) '0' ++ digits
    padded.take (padded.length - fraction) ++ '.' :: padded.drop (padded.length - fraction)

/-- Digits with the point after the first and the place of the first as exponent. -/
def scientific (l : Layout) (digits : List Char) (place : Int) : List Char :=
  let fraction := digits.drop 1
  digits.take 1 ++ (if fraction.isEmpty then [] else '.' :: fraction) ++ ['e'] ++
    (if l.signsExponent && 0 ≤ place then ['+'] else []) ++ (toString place).toList

/-- The characters of a finite magnitude. -/
def magnitude (l : Layout) (m : Magnitude) : List Char :=
  let d := Decimal.shortest l.tie m
  if l.isFull d.place then l.full d.digits d.exponent else l.scientific d.digits d.place

/-- **The text of a number** in a layout. -/
def write (l : Layout) : Binary64 → String
  | .nan => "NaN"
  | .real s m =>
    String.ofList ((if s then ['-'] else []) ++
      (if m.isFinite then l.magnitude m else ['i', 'n', 'f']))

end Layout

end QueryBatch
