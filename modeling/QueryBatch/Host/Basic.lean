import QueryBatch.Text.Hexadecimal
import QueryBatch.Text.Joined

/-!
# Hosts

A host of version 4 is four numbers of 8 bits with points between them. A host of version 6 is
eight groups of 16 bits in hexadecimal with colons between them, where one run of zero groups may be
written as `::`.

* `Host`: the two kinds of hosts.
* `Host.octetsText`, `Host.groupsText`: their numbers as they are written.
-/

namespace QueryBatch

/-- **Hosts.** -/
inductive Host
  /-- The four numbers of a host of version 4. -/
  | v4 (octets : List Nat)
  /-- The eight groups of a host of version 6, and its scope, which is zero if it has none. -/
  | v6 (groups : List Nat) (scope : Nat)
deriving DecidableEq, Inhabited

namespace Host

/-- Four numbers with points between them. -/
def octetsText (octets : List Nat) : String := Text.joined "." (octets.map toString)

/-- Groups with colons between them. -/
def plainGroups (groups : List Nat) : String :=
  Text.joined ":" (groups.map fun g => String.ofList (Text.hexDigits g))

/-- The number of zero groups in front. -/
def zeros (groups : List Nat) : Nat := (groups.takeWhile (· == 0)).length

/-- Where the longest run of zero groups starts, of equally long ones the first, and its length. -/
def longestRun (groups : List Nat) : Nat × Nat :=
  (List.range groups.length).foldl
    (fun best i =>
      let n := zeros (groups.drop i)
      if best.2 < n then (i, n) else best)
    (0, 0)

/-- Groups with colons between them, where the longest run of at least two zero groups is written as
`::`. -/
def groupsText (groups : List Nat) : String :=
  let (start, length) := longestRun groups
  if 1 < length then
    plainGroups (groups.take start) ++ "::" ++ plainGroups (groups.drop (start + length))
  else plainGroups groups

end Host

end QueryBatch
