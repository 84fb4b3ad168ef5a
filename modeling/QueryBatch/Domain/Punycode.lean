/-!
# Punycode

A label with characters beyond ASCII is written in ASCII as its ASCII characters, a hyphen if there
are any, and a list of numbers. Each number says how far it is to the next character that is to be
put in, where all places in the text come before the next code point. A number is written in up to
36 digits with the least one first, where the last digit is known by being below a threshold, and
the thresholds follow the numbers that were seen.

* `Punycode.decode`: the label that is written.
* `Punycode.encode`: how a label is written.
-/

namespace QueryBatch.Domain.Punycode

/-- The digit of a value below 36. -/
def digit (n : Nat) : Char :=
  if n < 26 then Char.ofNat ('a'.toNat + n) else Char.ofNat ('0'.toNat + (n - 26))

def digitValue? (c : Char) : Option Nat :=
  if c.isLower then some (c.toNat - 'a'.toNat)
  else if c.isDigit then some (c.toNat - '0'.toNat + 26)
  else none

/-- The threshold of the digit at a place, where the first place is 36 and the next one 72. -/
def threshold (place bias : Nat) : Nat :=
  if place ≤ bias then 1 else if bias + 26 ≤ place then 26 else place - bias

theorem threshold_pos (place bias : Nat) : 0 < threshold place bias := by
  unfold threshold
  repeat' split
  all_goals omega

/-- Divides a number until it is small, and tells for how many places. -/
def shrink (delta place : Nat) : Nat × Nat :=
  if 455 < delta then shrink (delta / 35) (place + 36) else (delta, place)
termination_by delta
decreasing_by exact Nat.div_lt_self (by omega) (by omega)

/-- The bias behind a number, if there are so many characters now. -/
def adapt (delta characters : Nat) (isFirst : Bool) : Nat :=
  let delta := if isFirst then delta / 700 else delta / 2
  let (delta, place) := shrink (delta + delta / characters) 0
  place + 36 * delta / (delta + 38)

/-! ### Reading -/

/-- What was read of the numbers. -/
structure Reading where
  /-- The characters so far. -/
  text : List Char
  /-- The code point that was put in last. -/
  code : Nat
  /-- Where the next character goes, counted from that code point on. -/
  index : Nat
  /-- The index at which the number began. -/
  start : Nat
  bias : Nat
  place : Nat
  weight : Nat

namespace Reading

/-- Puts in the character that a number leads to. -/
def insert (r : Reading) : Option Reading :=
  let size := r.text.length + 1
  let code := r.code + r.index / size
  let index := r.index % size
  if code.isValidChar then
    some {
      text := r.text.take index ++ Char.ofNat code :: r.text.drop index
      code := code
      index := index + 1
      start := index + 1
      bias := adapt (r.index - r.start) size (r.start == 0)
      place := 36
      weight := 1 }
  else none

/-- Reads a digit. -/
def step (r : Reading) (c : Char) : Option Reading := do
  let d ← digitValue? c
  let r := { r with index := r.index + d * r.weight }
  let t := threshold r.place r.bias
  if d < t then r.insert else some { r with weight := r.weight * (36 - t), place := r.place + 36 }

end Reading

/-- **The label that is written**, if the numbers are complete and lead to characters. -/
def decode (cs : List Char) : Option (List Char) := do
  let numbers := (cs.reverse.takeWhile (· != '-')).reverse
  let plain := cs.take (cs.length - numbers.length - 1)
  let numbers := if plain.isEmpty then cs else numbers
  let r ← numbers.foldlM Reading.step ⟨plain, 128, 0, 0, 72, 36, 1⟩
  if r.place = 36 then some r.text else none

/-! ### Writing -/

/-- The digits of a number from a place on. -/
def numberDigits (bias place n : Nat) : List Char :=
  let t := threshold place bias
  if n < t then [digit n]
  else digit (t + (n - t) % (36 - t)) :: numberDigits bias (place + 36) ((n - t) / (36 - t))
termination_by n
decreasing_by
  have h := threshold_pos place bias
  calc (n - threshold place bias) / (36 - threshold place bias)
      ≤ n - threshold place bias := Nat.div_le_self _ _
    _ < n := by omega

/-- What was written of the numbers. -/
structure Writing where
  digits : List Char
  /-- How far it is from the last character that was written. -/
  delta : Nat
  bias : Nat
  /-- How many characters are written. -/
  count : Nat

namespace Writing

/-- Passes a character of the label on the way to the next place of a code point. -/
def step (plain code : Nat) (w : Writing) (c : Char) : Writing :=
  if c.toNat < code then { w with delta := w.delta + 1 }
  else if c.toNat = code then {
    digits := w.digits ++ numberDigits w.bias 36 w.delta
    delta := 0
    bias := adapt w.delta (w.count + 1) (w.count == plain)
    count := w.count + 1 }
  else w

/-- Writes the code points of the label beyond ASCII, which ascend; `reached` is the one up to which
the way is counted. -/
def run (label : List Char) (plain : Nat) (reached : Nat) (w : Writing) : List Nat → Writing
  | [] => w
  | code :: r =>
    let w := { w with delta := w.delta + (code - reached) * (w.count + 1) }
    let w := label.foldl (step plain code) w
    run label plain (code + 1) { w with delta := w.delta + 1 } r

end Writing

/-- Puts a number into an ascending list, unless it is there. -/
def insertOnce (n : Nat) : List Nat → List Nat
  | [] => [n]
  | m :: r => if n < m then n :: m :: r else if n = m then m :: r else m :: insertOnce n r

/-- **How a label is written.** -/
def encode (label : List Char) : List Char :=
  let plain := label.filter fun c => c.toNat < 128
  let codes := (label.filter fun c => 128 ≤ c.toNat).foldr (fun c l => insertOnce c.toNat l) []
  let written := Writing.run label plain.length 128 ⟨[], 0, 72, plain.length⟩ codes
  plain ++ (if plain.isEmpty then [] else ['-']) ++ written.digits

end QueryBatch.Domain.Punycode
