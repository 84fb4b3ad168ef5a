import QueryBatch.Descriptor.Basic
import QueryBatch.Json.Decode

/-!
# Reading descriptors

A descriptor is written as an object, of which unknown fields are ignored, or as an array that has
all nineteen parts in a fixed order. Null stands for a missing part in both. The fields of an
object are decoded in the order of their names, and the first mismatch is reported.

* `Descriptor.decode`: a descriptor from a JSON value.
-/

namespace QueryBatch

open Json (Mismatch Decoder)

/-- A text or an array of texts. -/
def Tables.decode : Decoder Tables
  | .string s => .ok (.one s)
  | j =>
    match Decoder.list Decoder.string j with
    | .ok names => .ok (.many names)
    | .error _ => .error (.noVariant "TableRef")

/-- A text, or an object with the column and perhaps a weight. -/
def DataField.decode : Decoder DataField
  | .string s => .ok (.plain s)
  | .object fields => do
    let some name ← Decoder.field fields "field" Decoder.string
      | throw (.noVariant "DataFieldEntry")
    let weight ← Decoder.field fields "weight" Decoder.real
    pure (.weighted name weight)
  | _ => .error (.noVariant "DataFieldEntry")

/-- A text, or an array of columns. -/
def DataFields.decode : Decoder DataFields
  | .string s => .ok (.one s)
  | j =>
    match Decoder.list DataField.decode j with
    | .ok fields => .ok (.many fields)
    | .error _ => .error (.noVariant "DataField")

/-- An object with an optional statement, or an array of at most that one part. -/
def HandWritten.decode : Decoder HandWritten
  | .object fields => return ⟨← Decoder.field fields "query" Decoder.string⟩
  | .array [] => .ok ⟨none⟩
  | .array (j :: r) => do
    let query ← Decoder.optional Decoder.string j
    if r.isEmpty then pure ⟨query⟩
    else throw (.wrongLength (r.length + 1) "fewer elements in array")
  | j => .error (.wrongType j "struct DefaultQuery")

namespace Descriptor

def anyValue : Decoder Json := .ok

/-- Integers of 64 bits. -/
def size64 : Decoder Nat := Decoder.count "u64"

/-- The relations, which have two names; both at once are refused when the second is met. -/
def decodeTable (fields : Keyed Json) (index : Option Tables) : Except Mismatch (Option Tables) :=
  if fields.contains "table" then
    if fields.contains "index" then .error (.duplicateField "table")
    else Decoder.field fields "table" Tables.decode
  else .ok index

/-- A descriptor from the fields of an object. -/
def ofFields (fields : Keyed Json) : Except Mismatch Descriptor := do
  let aggregationSize ← Decoder.field fields "aggregationSize" size64
  let aggregations ←
    Decoder.field fields "aggregations" (Decoder.list (Decoder.variant Aggregation.names))
  let dataFields ← Decoder.field fields "dataField" DataFields.decode
  let handWritten ← Decoder.field fields "defaultQuery" HandWritten.decode
  let execute ← Decoder.field fields "execute" Decoder.bool
  let offset ← Decoder.field fields "from" size64
  let id ← Decoder.field fields "id" Decoder.string
  let includeFields ← Decoder.field fields "includeFields" (Decoder.list Decoder.string)
  let index ← Decoder.field fields "index" Tables.decode
  let interval ← Decoder.field fields "interval" Decoder.real
  let connective ← Decoder.field fields "queryFormat" (Decoder.variant Connective.names)
  let vector ← Decoder.field fields "queryVector" (Decoder.list Decoder.real)
  let size ← Decoder.field fields "size" size64
  let sortBy ← Decoder.field fields "sortBy" Decoder.string
  let sortField ← Decoder.field fields "sortField" Decoder.string
  let tables ← decodeTable fields index
  let kind ← Decoder.field fields "type" (Decoder.variant Kind.names)
  let value ← Decoder.field fields "value" anyValue
  let vectorField ← Decoder.field fields "vectorDataField" Decoder.string
  let condition ← Decoder.field fields "where" Decoder.string
  pure {
    id, tables, kind, includeFields, value, dataFields, connective, sortField, sortBy, condition,
    size, offset, handWritten, execute, vectorField, vector, aggregations, interval,
    aggregationSize }

def partCount : Nat := 19

/-- One part of a descriptor that is written as an array. -/
def part {α : Type} (items : List Json) (position : Nat) (decode : Decoder α) :
    Except Mismatch (Option α) :=
  Decoder.item items position s!"struct QueryDescriptor with {partCount} elements" decode

/-- A descriptor from the items of an array. -/
def ofItems (items : List Json) : Except Mismatch Descriptor := do
  let id ← part items 0 Decoder.string
  let tables ← part items 1 Tables.decode
  let kind ← part items 2 (Decoder.variant Kind.names)
  let includeFields ← part items 3 (Decoder.list Decoder.string)
  let value ← part items 4 anyValue
  let dataFields ← part items 5 DataFields.decode
  let connective ← part items 6 (Decoder.variant Connective.names)
  let sortField ← part items 7 Decoder.string
  let sortBy ← part items 8 Decoder.string
  let condition ← part items 9 Decoder.string
  let size ← part items 10 size64
  let offset ← part items 11 size64
  let handWritten ← part items 12 HandWritten.decode
  let execute ← part items 13 Decoder.bool
  let vectorField ← part items 14 Decoder.string
  let vector ← part items 15 (Decoder.list Decoder.real)
  let aggregations ← part items 16 (Decoder.list (Decoder.variant Aggregation.names))
  let interval ← part items 17 Decoder.real
  let aggregationSize ← part items 18 size64
  if items.length > partCount then throw (.wrongLength items.length "fewer elements in array")
  pure {
    id, tables, kind, includeFields, value, dataFields, connective, sortField, sortBy, condition,
    size, offset, handWritten, execute, vectorField, vector, aggregations, interval,
    aggregationSize }

/-- **A descriptor from a JSON value.** -/
def decode : Decoder Descriptor
  | .object fields => ofFields fields
  | .array items => ofItems items
  | j => .error (.wrongType j "struct QueryDescriptor")

end Descriptor

end QueryBatch
