import QueryBatch.Endpoint.Authority
import QueryBatch.Endpoint.Path

/-!
# Endpoints

The address of a service on the web: a scheme, a host with a port, a path, and perhaps a query and a
fragment. Other addresses are endpoints too, even if no request can be sent there.

* `Endpoint`: endpoints.
* `Endpoint.text`: the one form of an endpoint.
* `Endpoint.anonymous`: the endpoint without its user.
-/

namespace QueryBatch

/-- **Endpoints.** -/
structure Endpoint where
  scheme : String
  authority : Option Endpoint.Authority
  path : Endpoint.Path
  query : Option String
  fragment : Option String
deriving DecidableEq

namespace Endpoint

/-- A part behind its mark. -/
def marked (mark : String) (part : Option String) : String := (part.map (mark ++ ·)).getD ""

/-- Two slashes would begin an authority, so a path that starts with them is written behind a step
that stays where it is. -/
def guard (e : Endpoint) : String :=
  match e.authority, e.path with
  | none, .steps ("" :: _ :: _) => "/."
  | _, _ => ""

/-- **The text of an endpoint.** -/
def text (e : Endpoint) : String :=
  e.scheme ++ ":" ++ marked "//" (e.authority.map Authority.text) ++ e.guard ++ e.path.text ++
    marked "?" e.query ++ marked "#" e.fragment

def hasHost (e : Endpoint) : Bool := e.authority.any fun a => a.host.isSome

/-- The scheme is one over which requests are sent. -/
def isWeb (e : Endpoint) : Bool := e.scheme == "http" || e.scheme == "https"

/-- The endpoint can stand in a request: in its host, and with its length. -/
def fitsRequest (e : Endpoint) : Bool :=
  e.text.utf8ByteSize ≤ 65534 && e.authority.all fun a => a.host.all HostName.fitsRequest

/-- **The endpoint without its user.** A user whose name is no text stays, and so does a password
that is none, if there is no name. -/
def anonymous (e : Endpoint) : Endpoint :=
  { e with
    authority := e.authority.map fun a =>
      let isText (s : String) : Bool := (decodeText? s.toList).isSome
      if isText a.user && (!a.user.isEmpty || a.password.any isText) then
        { a with user := "", password := none }
      else a }

end Endpoint

end QueryBatch
