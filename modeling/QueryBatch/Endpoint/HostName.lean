import QueryBatch.Domain.Name
import QueryBatch.Endpoint.Percent
import QueryBatch.Host.Loose
import QueryBatch.Host.Reader

/-!
# Names of hosts

A host is named by its address or by a domain. In the schemes of the web the domain is one of the
internet; in other schemes it is any text without the marks that end it.

* `HostName.ofWeb?`, `HostName.ofPlain?`: the host that a text names.
* `HostName.text`: the one form of its name.
-/

namespace QueryBatch.Endpoint

/-- **Names of hosts.** -/
inductive HostName
  | domain (name : String)
  | address (host : Host)
deriving DecidableEq

namespace HostName

/-- A host of version 6 stands in brackets. -/
def ofBrackets? : List Char → Option HostName
  | '[' :: r =>
    if r.getLast? = some ']' then
      (Host.whole Host.allGroups r.dropLast).map fun groups => .address (.v6 groups 0)
    else none
  | _ => none

/-- **The host of the web that a text names.** Percent signs are read first. A domain that ends in a
number has to be a host of version 4. -/
def ofWeb? (cs : List Char) : Option HostName :=
  if cs.head? = some '[' then ofBrackets? cs
  else do
    let text ← decodeText? cs
    let name ← Domain.ascii? text.toList
    if name.isEmpty then none
    else if Host.endsInNumber name.toList then
      (Host.looseOctets? name.toList).map fun octets => .address (.v4 octets)
    else some (.domain name)

/-- Characters that no domain has outside the web. -/
def isForbidden (c : Char) : Bool :=
  c == Char.ofNat 0 || "\t\n\r #/:<>?@[\\]^|".toList.contains c

/-- **The host that a text names** in other schemes. -/
def ofPlain? (cs : List Char) : Option HostName :=
  if cs.head? = some '[' then ofBrackets? cs
  else if cs.any isForbidden then none
  else some (.domain (encode "" cs))

/-- **The one form of a host's name.** -/
def text : HostName → String
  | .domain name => name
  | .address (.v4 octets) => Host.octetsText octets
  | .address (.v6 groups _) => "[" ++ Host.groupsText groups ++ "]"

/-- A domain may stand in a request if it has none of four characters. -/
def fitsRequest : HostName → Bool
  | .domain name => !name.toList.any "\"\x60\x7b\x7d".toList.contains
  | .address _ => true

end HostName

end QueryBatch.Endpoint
