import QueryBatch.Number.Numeral
import QueryBatch.Text.Hexadecimal

/-!
# Reading hosts

Readers take something from the front of a list of characters. The last two groups of a host of
version 6 may be written like a host of version 4.

* `Host.octets`: reads the four numbers of a host of version 4.
* `Host.allGroups`: reads the eight groups of a host of version 6.
-/

namespace QueryBatch.Host

/-- Readers take something from the front of a list of characters and give what is left. -/
abbrev Reader (α : Type) := List Char → Option (α × List Char)

/-- Reads one given character. -/
def mark (c : Char) : Reader Unit
  | [] => none
  | x :: r => if x = c then some ((), r) else none

/-- The digits in front, and what follows them. -/
def span (isDigit : Char → Bool) (cs : List Char) : List Char × List Char :=
  (cs.takeWhile isDigit, cs.dropWhile isDigit)

/-- Reads a decimal number up to a limit. Zeros may stand in front. -/
def decimal (limit : Nat) : Reader Nat := fun cs =>
  let (ds, rest) := span Char.isDigit cs
  if !ds.isEmpty && decide (Numeral.value ds ≤ limit) then some (Numeral.value ds, rest) else none

/-- Reads a number of 8 bits: up to three digits, without a zero in front of others. -/
def octet : Reader Nat := fun cs =>
  let (ds, rest) := span Char.isDigit cs
  if ds.length ≤ 3 && (ds.head? != some '0' || ds.length == 1) then
    if !ds.isEmpty && decide (Numeral.value ds ≤ 255) then some (Numeral.value ds, rest) else none
  else none

/-- Reads the four numbers of a host of version 4. -/
def octets : Reader (List Nat) := fun cs => do
  let (a, cs) ← octet cs
  let (_, cs) ← mark '.' cs
  let (b, cs) ← octet cs
  let (_, cs) ← mark '.' cs
  let (c, cs) ← octet cs
  let (_, cs) ← mark '.' cs
  let (d, cs) ← octet cs
  pure ([a, b, c, d], cs)

/-- Reads a group: one to four hexadecimal digits. -/
def group : Reader Nat := fun cs =>
  let (ds, rest) := span Text.isHexDigit cs
  if !ds.isEmpty && ds.length ≤ 4 then some (Text.hexValue ds, rest) else none

/-- Reads what stands at one place among groups: behind a colon, unless it is the first place. -/
def separated {α : Type} (first : Bool) (reader : Reader α) : Reader α := fun cs =>
  if first then reader cs
  else do
    let (_, cs) ← mark ':' cs
    reader cs

/-- Reads as many groups as there are, up to a number of them, and tells whether they end in a
host of version 4, which counts for two groups. -/
def groups (first : Bool) : Nat → List Char → List Nat × Bool × List Char
  | 0, cs => ([], false, cs)
  | n + 1, cs =>
    match if n = 0 then none else separated first octets cs with
    | some ([a, b, c, d], rest) => ([a * 256 + b, c * 256 + d], true, rest)
    | _ =>
      match separated first group cs with
      | some (g, rest) =>
        let (gs, embedded, rest) := groups false n rest
        (g :: gs, embedded, rest)
      | none => ([], false, cs)

/-- Reads the eight groups of a host of version 6. The mark `::` stands for at least one zero
group. -/
def allGroups : Reader (List Nat) := fun cs =>
  match groups true 8 cs with
  | (head, embedded, rest) =>
    if head.length = 8 then some (head, rest)
    else if embedded then none
    else do
      let (_, rest) ← mark ':' rest
      let (_, rest) ← mark ':' rest
      let (tail, _, rest) := groups true (7 - head.length) rest
      pure (head ++ List.replicate (8 - head.length - tail.length) 0 ++ tail, rest)

/-- What a reader reads, if nothing is left behind it. -/
def whole {α : Type} (reader : Reader α) (cs : List Char) : Option α :=
  match reader cs with
  | some (a, []) => some a
  | _ => none

end QueryBatch.Host
