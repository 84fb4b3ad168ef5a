import QueryBatch.Host.Basic
import QueryBatch.Number.Numeral
import QueryBatch.Text.Split

/-!
# Hosts of version 4 on the web

Where a domain name could stand as well, a host of version 4 may be written with fewer than four
numbers, the last of which then stands for all bytes that are left, and each number may be
hexadecimal behind `0x`, octal behind `0`, or decimal. A point may follow.

* `Host.looseNumber?`: one number.
* `Host.endsInNumber`: the texts that name a host of version 4 or nothing.
* `Host.looseOctets?`: the four numbers of a host.
-/

namespace QueryBatch.Host

/-- Digits below a base; no digits stand for zero. -/
def numberIn? (base : Nat) (digits : List Char) : Option Nat :=
  (digits.mapM fun c => (Text.hexValue? c).filter (· < base)).map
    (·.foldl (fun n d => base * n + d) 0)

/-- A number, by what stands in front of its digits. -/
def looseNumber? : List Char → Option Nat
  | [] => none
  | '0' :: 'x' :: digits => numberIn? 16 digits
  | '0' :: 'X' :: digits => numberIn? 16 digits
  | '0' :: c :: digits => numberIn? 8 (c :: digits)
  | digits => numberIn? 10 digits

/-- The parts between points, where nothing behind the last point does not count. -/
def parts (cs : List Char) : List (List Char) :=
  let all := Text.split (· == '.') cs
  if all.getLast? = some [] then all.dropLast else all

/-- A text whose last part is meant as a number names a host of version 4 or nothing. -/
def endsInNumber (cs : List Char) : Bool :=
  match (parts cs).getLast? with
  | none => false
  | some last => Numeral.isDigits last || (looseNumber? last).isSome

/-- A number as bytes, the greatest first. -/
def bytes : Nat → Nat → List Nat
  | 0, _ => []
  | size + 1, n => bytes size (n / 256) ++ [n % 256]

/-- **The four numbers of a host.** -/
def looseOctets? (cs : List Char) : Option (List Nat) := do
  let numbers ← (parts cs).mapM looseNumber?
  let last ← numbers.getLast?
  let size := 5 - numbers.length
  if numbers.length ≤ 4 && numbers.dropLast.all (· ≤ 255) && decide (last < Nat.pow 256 size) then
    some (numbers.dropLast ++ bytes size last)
  else none

end QueryBatch.Host
