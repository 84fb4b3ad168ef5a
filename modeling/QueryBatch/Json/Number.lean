import QueryBatch.Number.Layout
import QueryBatch.Number.Numeral

/-!
# JSON numbers

A JSON number is an integer of 64 bits, signed or not, or a finite binary64 number; `1` and `1.0`
are different numbers with the same value. A literal without point and exponent is an integer if it
fits, except that `-0` is the negative zero of binary64. Every other literal is read in two
rounded steps: its leading digits, as many as 64 bits hold, make a binary64 number, and that
number is then multiplied or divided by a power of ten.

* `Json.Number`: the two kinds of numbers; `Number.ofInt?`, `Number.ofBinary64?`: the number of a
  value, if it has one.
* `Json.Number.units`: the exact value, by which numbers of both kinds are compared.
* `Json.Literal`: the digits of a literal; `Json.Literal.number?`: its number.
-/

namespace QueryBatch.Json

/-- The greatest unsigned integer of 64 bits. -/
def maxUnsigned : Nat := Nat.pow 2 64 - 1

/-- The least signed integer of 64 bits. -/
def minSigned : Int := -Int.pow 2 63

/-- Held by 64 bits, signed or not. -/
abbrev Fits (i : Int) : Prop := minSigned ≤ i ∧ i ≤ maxUnsigned

/-- **JSON numbers.** -/
inductive Number
  | int (value : Int) (fits : Fits value)
  | double (value : Binary64) (finite : value.isFinite = true)
deriving DecidableEq

namespace Number

def zero : Number := .int 0 (by decide)

instance : Inhabited Number := ⟨zero⟩

/-- The number of a binary64 number that is finite. -/
def ofBinary64? (x : Binary64) : Option Number :=
  if h : x.isFinite then some (.double x h) else none

/-- The number of an integer; one that 64 bits do not hold becomes the nearest binary64 number. -/
def ofInt? (i : Int) : Option Number :=
  if h : Fits i then some (.int i h) else ofBinary64? (.ofInt i)

theorem ofInt?_of_fits {i : Int} (h : Fits i) : ofInt? i = some (.int i h) := dif_pos h

theorem ofBinary64?_of_isFinite {x : Binary64} (h : x.isFinite = true) :
    ofBinary64? x = some (.double x h) := dif_pos h

def text : Number → String
  | .int i _ => toString i
  | .double x _ => Layout.json.write x

/-- The nearest binary64 number. -/
def toBinary64 : Number → Binary64
  | .int i _ => .ofInt i
  | .double x _ => x

/-- The exact value in units of 2⁻¹⁰⁷⁴. -/
def units : Number → Int
  | .int i _ => i * Magnitude.unitsPerOne
  | .double x _ => x.units

def isWhole : Number → Bool
  | .int _ _ => true
  | .double x _ => x.isWhole

end Number

/-- **Literals**: the digits of a number as they are written. The fraction is absent if there is
no point, the exponent if there is no letter `e`. -/
structure Literal where
  negative : Bool
  whole : List Char
  fraction : Option (List Char)
  exponent : Option Int

namespace Literal

/-- Appends digits to a number as long as 64 bits hold it, and gives back the digits that are
left. -/
def absorb (n : Nat) : List Char → Nat × List Char
  | [] => (n, [])
  | c :: r =>
    let n' := 10 * n + Numeral.digitValue c
    if n' ≤ maxUnsigned then absorb n' r else (n, c :: r)

/-- The leading digits that 64 bits hold, with the power of ten that they are to be scaled by.
Digits of the whole part that are left out count for the scale, digits of the fraction that are
left out do not. -/
def significand (l : Literal) : Nat × Int :=
  let (w, dropped) := absorb 0 l.whole
  let fraction := l.fraction.getD []
  let (n, left) := absorb w fraction
  (n, dropped.length - (fraction.length - left.length : Int))

/-- The greatest power of ten by which a number is scaled in one step. -/
def maxScale : Nat := 308

def powerOfTen (e : Nat) : Magnitude := .ofNat (Nat.pow 10 e)

/-- A number scaled by a power of ten. It is multiplied at most once, and may be divided
repeatedly. -/
def scaled (m : Magnitude) (e : Int) : Magnitude :=
  if e.natAbs ≤ maxScale then
    if 0 ≤ e then m.mul (powerOfTen e.natAbs) else m.div (powerOfTen e.natAbs)
  else if m.code = 0 then m
  else if 0 ≤ e then .infinite
  else scaled (m.div (powerOfTen maxScale)) (e + maxScale)
termination_by (-e).toNat
decreasing_by simp only [maxScale] at *; omega

/-- The integer of a literal that has neither point nor exponent, if 64 bits hold it. -/
def integer? (l : Literal) : Option Number :=
  if l.fraction.isSome || l.exponent.isSome then none
  else
    let n : Int := Numeral.value l.whole
    if l.negative then
      if h : n ≠ 0 ∧ Fits (-n) then some (.int (-n) h.2) else none
    else if h : Fits n then some (.int n h) else none

/-- **The number of a literal**; none if it is out of range. -/
def number? (l : Literal) : Option Number :=
  match l.integer? with
  | some n => some n
  | none =>
    let (n, scale) := l.significand
    Number.ofBinary64? (.real l.negative (scaled (.ofNat n) (scale + l.exponent.getD 0)))

end Literal

end QueryBatch.Json
