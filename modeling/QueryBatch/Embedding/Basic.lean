import QueryBatch.Descriptor.Basic
import QueryBatch.Duration

/-!
# Embeddings

An embedding service turns a text into a vector.

* `EmbeddingError`: why there is no vector.
* `Embedder`: what the service answers to a text, and when.
-/

namespace QueryBatch

/-- Why there is no vector for a text. -/
inductive EmbeddingError
  | request (reason : String)
  | malformedResponse (reason : String)
  | missingApiKey
  | unavailable
  | timeout (after : Duration)
  | cancelled
deriving DecidableEq, Inhabited

def EmbeddingError.message : EmbeddingError → String
  | .request reason => s!"Embedding request failed: {reason}"
  | .malformedResponse reason => s!"Malformed embedding response: {reason}"
  | .missingApiKey => "No API key configured for the embedding service"
  | .unavailable => "No embedding service configured"
  | .timeout after => s!"Embedding request timed out after {after.text}"
  | .cancelled => "Embedding request cancelled"

/-- An answer of the service and the milliseconds after which it comes; it may never come. -/
structure EmbeddingReply where
  delay : Option Nat
  result : Except EmbeddingError (List Binary64)

/-- **Embedding services.** -/
abbrev Embedder := String → EmbeddingReply

/-- The text to fetch a vector for, if the descriptor takes part and wants one. -/
def Descriptor.textToEmbed? (d : Descriptor) : Option String :=
  if d.isExecuted && d.wantsEmbedding then d.valueText? else none

end QueryBatch
