import QueryBatch.Host.Basic
import QueryBatch.Host.Reader

/-!
# Socket addresses

An address is a host and a port. A host of version 6 stands in brackets, and a scope may follow
behind a percent sign.

* `Address.parse`: reads an address.
* `Address.text`: the one form in which an address is written.
-/

namespace QueryBatch

/-- **Socket addresses.** -/
structure Address where
  host : Host
  port : Nat
deriving DecidableEq, Inhabited

namespace Address

open Host (Reader mark decimal octets allGroups octetsText groupsText)

/-- Reads a port behind its colon. -/
def portNumber : Reader Nat := fun cs => do
  let (_, cs) ← mark ':' cs
  decimal 65535 cs

/-- Reads a scope behind its percent sign; a scope that cannot be read is left where it is. -/
def scope : List Char → Nat × List Char
  | '%' :: cs => (decimal (Nat.pow 2 32 - 1) cs).getD (0, '%' :: cs)
  | cs => (0, cs)

/-- Reads an address with a host of version 4. -/
def version4 : Reader Address := fun cs => do
  let (o, cs) ← octets cs
  let (p, cs) ← portNumber cs
  pure (⟨.v4 o, p⟩, cs)

/-- Reads an address with a host of version 6. -/
def version6 : Reader Address := fun cs => do
  let (_, cs) ← mark '[' cs
  let (g, cs) ← allGroups cs
  let (s, cs) := scope cs
  let (_, cs) ← mark ']' cs
  let (p, cs) ← portNumber cs
  pure (⟨.v6 g s, p⟩, cs)

/-- **The address of a text**, if the whole text is one. -/
def parse (s : String) : Option Address :=
  match (version4 s.toList).orElse fun _ => version6 s.toList with
  | some (a, []) => some a
  | _ => none

/-- The text of a host of version 6 without its scope. One that only stands for a host of version
4 is written with it. -/
def hostText (groups : List Nat) : String :=
  match groups with
  | [0, 0, 0, 0, 0, 0xFFFF, g, h] => "::ffff:" ++ octetsText [g / 256, g % 256, h / 256, h % 256]
  | _ => groupsText groups

/-- **The text of an address.** -/
def text (a : Address) : String :=
  match a.host with
  | .v4 o => s!"{octetsText o}:{a.port}"
  | .v6 g s =>
    let suffix := if s = 0 then "" else s!"%{s}"
    s!"[{hostText g}{suffix}]:{a.port}"

end Address

end QueryBatch
