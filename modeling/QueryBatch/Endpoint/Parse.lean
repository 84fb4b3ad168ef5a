import QueryBatch.Endpoint.Basic

/-!
# Reading endpoints

An endpoint is written in one form: scheme and host in small letters, without the usual port of the
scheme, without steps such as `..`, and with every character encoded that may not stand where it is.
What is read need not be in this form.

* `Endpoint.parse`: the endpoint of a text.
-/

namespace QueryBatch.Endpoint

/-- Schemes whose endpoints name a host of the web, with their usual ports. -/
def usualPorts : List (String × Nat) :=
  [("http", 80), ("https", 443), ("ws", 80), ("wss", 443), ("ftp", 21)]

/-- A slash; in the schemes of the web and of files a backslash is one. -/
def isSlash (c : Char) : Bool := c == '/' || c == '\\'

/-- Blanks and controls around an endpoint do not count, and neither do tabs and line ends in it. -/
def cleaned (cs : List Char) : List Char :=
  let isEdge (c : Char) : Bool := c.toNat ≤ 32
  let trimmed := ((cs.dropWhile isEdge).reverse.dropWhile isEdge).reverse
  trimmed.filter fun c => c != '\t' && c != '\n' && c != '\r'

/-- Letters, digits and three marks of ASCII, a letter in front. -/
def isScheme (cs : List Char) : Bool :=
  (cs.head?.map Char.isAlpha).getD false &&
    cs.all fun c => c.isAlphanum || c == '+' || c == '-' || c == '.'

/-- An endpoint, where query and fragment follow the path. `quotes` says whether single quotes are
encoded in the query. -/
def assemble (scheme : String) (quotes : Bool) (authority : Option Authority)
    (path : List Char → Path) (rest : List Char) : Endpoint :=
  let (rest, fragment) := Text.cut '#' rest
  let (rest, query) := Text.cut '?' rest
  { scheme, authority
    path := path rest
    query := query.map (encode (querySpecials quotes))
    fragment := fragment.map (encode fragmentSpecials) }

/-- Reads what follows the scheme of an endpoint of the web; any number of slashes begins it. -/
def ofWeb? (scheme : String) (usual : Nat) (cs : List Char) : Option Endpoint := do
  let (authority, rest) ← Authority.read? true (some usual) (cs.dropWhile isSlash)
  let path (p : List Char) : Path := .ofSteps (Path.ofChars false isSlash p)
  some (assemble scheme true (some authority) path rest)

/-- Reads what follows the scheme of a file. Its host may be missing, and is if the path starts with
a drive. -/
def ofFile? (cs : List Char) : Option Endpoint := do
  let isEnd (c : Char) : Bool := isSlash c || c == '?' || c == '#'
  let (name, rest) :=
    if (cs.take 2).length = 2 && (cs.take 2).all isSlash then
      let name := (cs.drop 2).takeWhile (!isEnd ·)
      if Path.isDrive name then ([], cs.drop 2) else (name, (cs.drop 2).dropWhile (!isEnd ·))
    else ([], cs)
  let host ← if name.isEmpty then some none else (HostName.ofWeb? name).map some
  let path := (rest.takeWhile fun c => c != '?' && c != '#')
  let steps := Path.ofChars true isSlash path
  let isLocal := host = some (.domain "localhost") || (steps.head?.map Path.isDrive).getD false
  some (assemble "file" true (some { host := if isLocal then none else host })
    (fun _ => .ofSteps (Path.withoutEmptyFront steps)) rest)

/-- Reads what follows any other scheme. -/
def ofOther? (scheme : String) (cs : List Char) : Option Endpoint :=
  let steps (p : List Char) : Path :=
    if p.isEmpty then .steps [] else .ofSteps (Path.ofChars false (· == '/') p)
  match cs with
  | '/' :: '/' :: r => do
    let (authority, rest) ← Authority.read? false none r
    some (assemble scheme false (some authority) steps rest)
  | '/' :: r => some (assemble scheme false none steps ('/' :: r))
  | _ => some (assemble scheme false none (fun p => .plain (encode "" p)) cs)

/-- **The endpoint of a text**, if it is one. -/
def parse (s : String) : Option Endpoint := do
  let (name, rest) := Text.cut ':' (cleaned s.toList)
  let rest ← rest
  if !isScheme name then none
  let scheme := String.ofList (name.map Char.toLower)
  match usualPorts.lookup scheme with
  | some usual => ofWeb? scheme usual rest
  | none => if scheme = "file" then ofFile? rest else ofOther? scheme rest

end QueryBatch.Endpoint
