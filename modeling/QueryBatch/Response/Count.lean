import QueryBatch.Json.Basic
import QueryBatch.Text.Blank

/-!
# Counts

A store may give a count as a number or as text. A count is never negative and has at most 64
bits; what is no number counts as zero.

* `Count.parse`: the count of a column.
-/

namespace QueryBatch.Count

/-- The count of a text: its decimal digits if they fit 64 bits, else the number that it reads as.
-/
def ofText (s : String) : Nat :=
  let cs := Text.trimChars s.toList
  match Numeral.count? Json.maxUnsigned cs with
  | some n => n
  | none =>
    match Numeral.real? cs with
    | some x => x.saturate Json.maxUnsigned
    | none => 0

/-- The count of a number. -/
def ofNumber : Json.Number → Nat
  | .int i _ => i.toNat
  | .double x _ => x.saturate Json.maxUnsigned

/-- **The count of a column**; a column that is absent, or is neither number nor text, counts as
zero. -/
def parse : Option Json → Nat
  | some (.number n) => ofNumber n
  | some (.string s) => ofText s
  | _ => 0

end QueryBatch.Count
