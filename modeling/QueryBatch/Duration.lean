import QueryBatch.Number.Binary64

/-!
# Durations

A duration is a whole number of nanoseconds. Its text names the largest of the units second,
millisecond, microsecond and nanosecond that it fills at least once; what is left over stands
behind a point, without zeros at its end.

* `Duration.text`: for instance `30s`, `1.5s`, `20ms`, `999ns`.
* `Duration.inMillis`: the number of milliseconds, as a measured time is reported.
-/

namespace QueryBatch

/-- **Durations** in nanoseconds. -/
structure Duration where
  nanos : Nat
deriving DecidableEq, Inhabited

namespace Duration

def ofMillis (n : Nat) : Duration := ⟨n * Nat.pow 10 6⟩

/-- A duration given as seconds and nanoseconds. -/
def ofParts (seconds nanos : Nat) : Duration := ⟨seconds * Nat.pow 10 9 + nanos⟩

/-- The digits of a fraction `rest / 10 ^ places` behind the point, without zeros at the end. -/
def fractionDigits (rest places : Nat) : List Char :=
  let digits := Nat.toDigits 10 rest
  let padded := List.replicate (places - digits.length) '0' ++ digits
  (padded.reverse.dropWhile (· == '0')).reverse

/-- A number of nanoseconds in a unit of `10 ^ places` nanoseconds. -/
def inUnit (n places : Nat) (unit : String) : String :=
  let fraction := fractionDigits (n % Nat.pow 10 places) places
  String.ofList (Nat.toDigits 10 (n / Nat.pow 10 places) ++
    (if fraction.isEmpty then [] else '.' :: fraction)) ++ unit

/-- **The text of a duration.** -/
def text (d : Duration) : String :=
  if Nat.pow 10 9 ≤ d.nanos then inUnit d.nanos 9 "s"
  else if Nat.pow 10 6 ≤ d.nanos then inUnit d.nanos 6 "ms"
  else if Nat.pow 10 3 ≤ d.nanos then inUnit d.nanos 3 "µs"
  else inUnit d.nanos 0 "ns"

/-- **Milliseconds** as a binary64 number: the whole seconds and the rounded fraction of a second
are added and then scaled, each step being rounded. -/
def inMillis (d : Duration) : Binary64 :=
  let seconds := Magnitude.ofNat (d.nanos / Nat.pow 10 9)
  let fraction := Magnitude.round (d.nanos % Nat.pow 10 9) (Nat.pow 10 9)
  .real false ((seconds.add fraction).mul (.ofNat 1000))

end Duration

end QueryBatch
