import QueryBatch.Descriptor.Basic

/-!
# Writing descriptors

A descriptor is written as an object with all of its parts; a missing part is null. Only the
weight of a column is left out if it is missing.

* `Descriptor.encode`: the JSON value of a descriptor.
-/

namespace QueryBatch

def Tables.encode : Tables → Json
  | .one name => .string name
  | .many names => .ofStrings names

/-- A text, or an object with the column and its weight. -/
def DataField.encode : DataField → Json
  | .plain name => .string name
  | .weighted name none => .object [("field", .string name)]
  | .weighted name (some weight) =>
    .object [("field", .string name), ("weight", .ofBinary64 weight)]

def DataFields.encode : DataFields → Json
  | .one name => .string name
  | .many fields => .array (fields.map DataField.encode)

def HandWritten.encode (h : HandWritten) : Json := .object [("query", .ofString? h.query)]

namespace Descriptor

def orNull {α : Type} (encode : α → Json) : Option α → Json
  | none => .null
  | some a => encode a

/-- **The JSON value of a descriptor**, with its fields in the order of their names. -/
def encode (d : Descriptor) : Json :=
  .object [
    ("aggregationSize", orNull .ofNat d.aggregationSize),
    ("aggregations", orNull (fun l => .ofStrings (l.map Aggregation.name)) d.aggregations),
    ("dataField", orNull DataFields.encode d.dataFields),
    ("defaultQuery", orNull HandWritten.encode d.handWritten),
    ("execute", orNull .bool d.execute),
    ("from", orNull .ofNat d.offset),
    ("id", orNull .string d.id),
    ("includeFields", orNull .ofStrings d.includeFields),
    ("interval", orNull .ofBinary64 d.interval),
    ("queryFormat", orNull (fun c => .string c.name) d.connective),
    ("queryVector", orNull (fun l => .array (l.map .ofBinary64)) d.vector),
    ("size", orNull .ofNat d.size),
    ("sortBy", orNull .string d.sortBy),
    ("sortField", orNull .string d.sortField),
    ("table", orNull Tables.encode d.tables),
    ("type", orNull (fun k => .string k.name) d.kind),
    ("value", orNull (fun j => j) d.value),
    ("vectorDataField", orNull .string d.vectorField),
    ("where", orNull .string d.condition)]

end Descriptor

end QueryBatch
