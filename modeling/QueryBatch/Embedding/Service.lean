import QueryBatch.Embedding.Basic
import QueryBatch.Endpoint.Parse
import QueryBatch.Json.Record
import QueryBatch.Settings.Basic

/-!
# The embedding service

A text is sent to the service as one request, and the vector stands in the first part of its
answer. How a request travels is not known here: a `Transport` carries it, or says that it could
not.

* `EmbeddingService.ofSettings`: the service that settings describe.
* `EmbeddingService.embed`: the vector of a text.
-/

namespace QueryBatch

/-- A request to the service. -/
structure ServiceRequest where
  endpoint : Endpoint
  authorization : String
  body : Json

/-- What comes back for a request. -/
inductive ServiceReply
  /-- The request could not be sent, or was not answered. -/
  | unanswered
  | answered (code : Nat) (reason : String) (body : String)

/-- **Transports** carry requests. -/
abbrev Transport := ServiceRequest → ServiceReply

/-- **The embedding service.** -/
structure EmbeddingService where
  apiKey : String
  model : String
  endpoint : String
deriving DecidableEq, Inhabited

namespace EmbeddingService

/-- The service that settings describe; it needs a key. -/
def ofSettings (s : EmbeddingSettings) : Except EmbeddingError EmbeddingService :=
  match s.apiKey.filter fun k => !k.isEmpty with
  | none => .error .missingApiKey
  | some key => .ok ⟨key, s.model, s.endpoint⟩

/-- A text that may stand in a header: it has no control but the tab. -/
def isHeaderText (s : String) : Bool :=
  s.toList.all fun c => (32 ≤ c.toNat && c.toNat != 127) || c == '\t'

/-- Why a text cannot be sent to an endpoint. -/
def unfit (e : Endpoint) : EmbeddingError := .request s!"builder error for url ({e.text})"

/-- The request for a text. The endpoint has to be one, and to name a host; then the key has to fit
into a header, and the endpoint into a request. The user of an endpoint is not sent in it. -/
def request (s : EmbeddingService) (text : String) : Except EmbeddingError ServiceRequest :=
  match Endpoint.parse s.endpoint with
  | none => .error (.request "builder error")
  | some named =>
    let e := named.anonymous
    if !named.hasHost then .error (unfit named)
    else if !isHeaderText s.apiKey then .error (.request "builder error")
    else if !e.isWeb || !e.fitsRequest then .error (unfit e)
    else
      .ok {
        endpoint := e
        authorization := "Bearer " ++ s.apiKey
        body := .object [("input", .string text), ("model", .string s.model)] }

/-- One part of an answer that has to be there. -/
def required {α : Type} (scan : Json.Scan (Option α)) : Json.Scan α := do
  match ← scan with
  | some a => pure a
  | none => Json.Scan.fail (.misfit "missing field")

/-- Reads an array of things. -/
def listOf {α : Type} (item : Json.Scan α) : Json.Scan (List α) := do
  match ← Json.Scan.scalar with
  | .array _ =>
    Json.Scan.skip
    let l ← Json.Scan.items item ((← Json.Scan.left) + 1) true
    Json.Scan.endList
    pure l
  | j => Json.Scan.fail (.misfit (Json.Mismatch.wrongType j "a sequence").message)

def real : Json.Scan Binary64 := do
  match Json.Decoder.real (← Json.Scan.scalar) with
  | .ok x => pure x
  | .error e => Json.Scan.fail (.misfit e.message)

/-- A record with one named part, as an object or as an array. -/
def single {α : Type} (type name : String) (scan : Json.Scan α) : Json.Scan α :=
  let part : Json.Part (Option α) := {
    name := name
    decode := fun j => .error (.wrongType j type)
    scan := do
      let a ← scan
      pure fun _ => some a }
  required (Json.Record.scan type [part] none)

def vectors (body : String) : Except Json.Fault (List (List Binary64)) :=
  let vector := single "EmbeddingData" "embedding" (listOf real)
  Json.readWith (single "EmbeddingResponse" "data" (listOf vector)) body

/-- **The vector of an answer**: the first one, which must have a component. -/
def interpret (endpoint : Endpoint) : ServiceReply → Except EmbeddingError (List Binary64)
  | .unanswered => .error (.request s!"error sending request for url ({endpoint.text})")
  | .answered code reason body =>
    if 400 ≤ code && code < 500 then
      .error (.request s!"HTTP status client error ({code} {reason}) for url ({endpoint.text})")
    else if 500 ≤ code && code < 600 then
      .error (.request s!"HTTP status server error ({code} {reason}) for url ({endpoint.text})")
    else
      match vectors body with
      | .error _ => .error (.malformedResponse "error decoding response body")
      | .ok ((x :: r) :: _) => .ok (x :: r)
      | .ok _ => .error (.malformedResponse "no embedding returned")

/-- **The vector of a text.** -/
def embed (s : EmbeddingService) (transport : Transport) (text : String) :
    Except EmbeddingError (List Binary64) := do
  let r ← s.request text
  interpret r.endpoint (transport r)

end EmbeddingService

end QueryBatch
