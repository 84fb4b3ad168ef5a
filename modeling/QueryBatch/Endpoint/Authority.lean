import QueryBatch.Endpoint.HostName

/-!
# Authorities

Behind two slashes an endpoint tells its host, perhaps with a user in front and a port behind it.

* `Authority`: user, host and port.
* `Authority.read?`: reads an authority.
-/

namespace QueryBatch.Endpoint

/-- **Authorities.** -/
structure Authority where
  /-- The name of the user, as it is written. -/
  user : String := ""
  password : Option String := none
  /-- The host; some schemes do without one. -/
  host : Option HostName
  port : Option Nat := none
deriving DecidableEq

namespace Authority

/-- **The text of an authority.** -/
def text (a : Authority) : String :=
  let password := (a.password.map (":" ++ ·)).getD ""
  let user := a.user ++ password
  (if user.isEmpty then "" else user ++ "@") ++ (a.host.map HostName.text).getD "" ++
    (a.port.map fun p => s!":{p}").getD ""

/-- No part of an authority tells a user. -/
def isAnonymous (a : Authority) : Bool := a.user.isEmpty && a.password.isNone

/-- What stands before the last `@`, if there is one, and what stands behind it. -/
def cutUser (cs : List Char) : Option (List Char) × List Char :=
  if cs.contains '@' then
    let plain := (cs.reverse.takeWhile (· != '@')).reverse
    (some (cs.take (cs.length - plain.length - 1)), plain)
  else (none, cs)

/-- The host in front of a colon, where a colon in brackets does not count, and what follows. -/
def cutHost (inside : Bool) : List Char → List Char × List Char
  | [] => ([], [])
  | c :: r =>
    if c = ':' && !inside then ([], c :: r)
    else
      let (host, rest) := cutHost (if c = '[' then true else if c = ']' then false else inside) r
      (c :: host, rest)

/-- Reads the port behind a colon, which may be missing, and gives what is left. -/
def readPort? (cs : List Char) : Option (Option Nat × List Char) :=
  match cs with
  | [] => some (none, [])
  | _ :: r =>
    let digits := r.takeWhile Char.isDigit
    let rest := r.dropWhile Char.isDigit
    if (rest.isEmpty || rest.head? = some '\\') && Numeral.value digits ≤ 65535 then
      some (if digits.isEmpty then none else some (Numeral.value digits), rest)
    else none

/-- **Reads an authority** up to the mark that ends it, and gives what is left. On the web, a
backslash is such a mark, there has to be a host, and the `usual` port is left out. -/
def read? (web : Bool) (usual : Option Nat) (cs : List Char) : Option (Authority × List Char) := do
  let isEnd (c : Char) : Bool := c == '/' || c == '?' || c == '#' || (web && c == '\\')
  let after := cs.dropWhile (!isEnd ·)
  let (user, plain) := cutUser (cs.takeWhile (!isEnd ·))
  if user = some [] && plain.isEmpty && !after.isEmpty then none
  let (name, secret) := Text.cut ':' (user.getD [])
  let (host, rest) := cutHost false plain
  let (port, rest) ← readPort? rest
  let authority : Authority := {
    user := encode userSpecials name
    password := (secret.filter (!·.isEmpty)).map (encode userSpecials)
    host := none
    port := if port = usual then none else port }
  if host.isEmpty then
    if web || !authority.isAnonymous || plain.head? = some ':' then none
    else some (authority, rest ++ after)
  else do
    let host ← if web then HostName.ofWeb? host else HostName.ofPlain? host
    some ({ authority with host := some host }, rest ++ after)

end Authority

end QueryBatch.Endpoint
