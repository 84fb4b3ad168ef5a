import QueryBatch.Text.Hexadecimal
import QueryBatch.Text.Split

/-!
# Tables of characters

What a standard lists about characters is kept as text, with code points in hexadecimal, in three
forms.

* A *class* is given by its turns, the code points at which membership changes, where U+0000 is
  outside: `30 3A` is the class of the ten digits.
* *Levels* give every character a word: by `300:230 315:232` it is `230` from U+0300 on and `232`
  from U+0315 on.
* *Replacements* stand in rows between semicolons. The first word of a row is a code point, and each
  further one says by what the next code points are replaced: `61` by one, `73+73` by two, `-` by
  none, `61*1A` that 26 neighbours are replaced by neighbours, and `101/18` the same for 24 code
  points of which every second one is meant.
-/

namespace QueryBatch.Text

def tableWords (cs : List Char) : List (List Char) :=
  (split (fun c => c == ' ' || c == '\n') cs).filter (!·.isEmpty)

/-! ### Classes -/

/-- The turns of a class. -/
def turns (table : String) : List Nat := (tableWords table.toList).map hexValue

/-- A character lies in a class iff an odd number of turns lies at or below it. -/
def isInside (turns : List Nat) (c : Char) : Bool := turns.countP (· ≤ c.toNat) % 2 == 1

/-! ### Levels -/

/-- Code points, and the words that hold from them on. -/
def levels (table : String) : List (Nat × String) :=
  (tableWords table.toList).map fun w =>
    let (start, word) := cut ':' w
    (hexValue start, String.ofList (word.getD []))

/-- The word of a character; none below the first level. -/
def level? {α : Type} (levels : List (Nat × α)) (c : Char) : Option α :=
  ((levels.takeWhile (·.1 ≤ c.toNat)).getLast?).map Prod.snd

/-! ### Replacements -/

/-- **Replacements** of one code point, or of some at equal distances by one code point each. -/
structure Replacement where
  first : Nat
  count : Nat
  step : Nat
  target : List Nat

namespace Replacement

/-- A number behind one of two marks. -/
def counted (first : Nat) (w : List Char) (mark : Char) (step : Nat) : Option Replacement :=
  match cut mark w with
  | (target, some count) => some ⟨first, hexValue count, step, [hexValue target]⟩
  | (_, none) => none

/-- The replacement that a word stands for at a code point. -/
def ofWord (first : Nat) (w : List Char) : Replacement :=
  if w = ['-'] then ⟨first, 1, 1, []⟩
  else
    ((counted first w '*' 1).or (counted first w '/' 2)).getD
      ⟨first, 1, 1, (split (· == '+') w).map hexValue⟩

/-- The code point behind the last one that is replaced. -/
def stop (e : Replacement) : Nat := e.first + (e.count - 1) * e.step + 1

/-- The replacements of a row from a code point on. -/
def ofWords (first : Nat) : List (List Char) → List Replacement
  | [] => []
  | w :: r =>
    let e := ofWord first w
    e :: ofWords e.stop r

/-- By what a code point is replaced. -/
def replace? (e : Replacement) (n : Nat) : Option (List Nat) :=
  let d := n - e.first
  if e.first ≤ n && d % e.step == 0 && decide (d / e.step < e.count) then
    some (e.target.map (· + d))
  else none

end Replacement

/-- The replacements of a table. -/
def replacements (table : String) : List Replacement :=
  (split (· == ';') table.toList).flatMap fun row =>
    match tableWords row with
    | [] => []
    | first :: words => Replacement.ofWords (hexValue first) words

/-- By what a character is replaced; none if the table does not name it. -/
def replacement? (table : List Replacement) (c : Char) : Option (List Char) :=
  (table.findSome? (·.replace? c.toNat)).map (·.map Char.ofNat)

end QueryBatch.Text
