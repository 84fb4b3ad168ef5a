import QueryBatch.Descriptor.Decode
import QueryBatch.Descriptor.Schema

/-!
# Batches

A batch is a list of descriptors that is accepted or rejected as a whole. A descriptor is at fault
if it breaks a rule on its shape, if it cannot be decoded, if its id is the one under which the
answer keeps its own data, or if an earlier descriptor without any of these faults has the same
id.

* `Batch.inspect`: the descriptor of one value, or its fault.
* `Batch.accept`: the descriptors of a batch, or a rejection with a message for each position.
-/

namespace QueryBatch

/-- Why a batch was not accepted. -/
inductive Rejection
  /-- The rules themselves cannot be used. -/
  | invalidSchema (message : String)
  /-- A message for each position, empty where nothing is at fault. -/
  | rejected (messages : List String)
deriving DecidableEq

def Rejection.message : Rejection → String
  | .invalidSchema message => s!"Invalid descriptor schema: {message}"
  | .rejected messages =>
    s!"{(messages.filter fun m => !m.isEmpty).length} descriptor(s) failed validation"

namespace Batch

/-- The key of an answer under which it keeps its own data. -/
def settingsKey : String := "settings"

/-- **Inspection** of one value; `seen` are the ids of the descriptors before it. -/
def inspect (seen : List String) (j : Json) : Except String Descriptor :=
  match Schema.problems j with
  | [] =>
    match Descriptor.decode j with
    | .error e => .error e.message
    | .ok d =>
      if d.name = settingsKey then .error s!"id `{settingsKey}` is reserved"
      else if d.name ∈ seen then .error s!"duplicate id `{d.name}`"
      else .ok d
  | problems => .error (",".intercalate (problems.map Schema.Problem.message))

/-- Inspects values in order. -/
def inspectAll (seen : List String) : List Json → List (Except String Descriptor)
  | [] => []
  | j :: r =>
    match inspect seen j with
    | .ok d => .ok d :: inspectAll (d.name :: seen) r
    | .error m => .error m :: inspectAll seen r

/-- The message for a position. -/
def messageOf : Except String Descriptor → String
  | .ok _ => ""
  | .error m => m

/-- **The descriptors of a batch**, or a rejection. -/
def accept (batch : List Json) : Except Rejection (List Descriptor) :=
  let results := inspectAll [] batch
  match results.mapM id with
  | .ok descriptors => .ok descriptors
  | .error _ => .error (.rejected (results.map messageOf))

end Batch

end QueryBatch
