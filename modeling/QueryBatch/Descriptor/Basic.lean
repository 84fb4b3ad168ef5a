import QueryBatch.Json.Basic

/-!
# Descriptors

A descriptor is one named query of a batch as its author wrote it. Everything in it is optional;
what a missing part means is settled when the descriptor is resolved, not here.

* `Descriptor`: a descriptor, with `Kind`, `Connective`, `Aggregation`, `Tables`, `DataFields` for
  its parts.
* `Descriptor.tableNames`, `Descriptor.fieldNames`: the relations and columns that it names.
* `Descriptor.wantsEmbedding`: a query vector is to be fetched for its value.
-/

namespace QueryBatch

/-- What a descriptor asks for. -/
inductive Kind
  | search
  | suggestion
  | term
  | range
deriving DecidableEq, Inhabited

/-- What stands between the conditions on several columns. -/
inductive Connective
  | or
  | and
deriving DecidableEq, Inhabited

/-- What a range query computes over its column. -/
inductive Aggregation
  | min
  | max
  | histogram
deriving DecidableEq, Inhabited

/-- The names under which the members of an enumeration are written. -/
def Kind.names : List (String × Kind) :=
  [("search", .search), ("suggestion", .suggestion), ("term", .term), ("range", .range)]

def Kind.name : Kind → String
  | .search => "search"
  | .suggestion => "suggestion"
  | .term => "term"
  | .range => "range"

/-- The names under which connectives are written. -/
def Connective.names : List (String × Connective) := [("or", .or), ("and", .and)]

def Connective.name : Connective → String
  | .or => "or"
  | .and => "and"

/-- The names under which aggregations are written. -/
def Aggregation.names : List (String × Aggregation) :=
  [("min", .min), ("max", .max), ("histogram", .histogram)]

def Aggregation.name : Aggregation → String
  | .min => "min"
  | .max => "max"
  | .histogram => "histogram"

/-- One relation, or a list of them. -/
inductive Tables
  | one (name : String)
  | many (names : List String)
deriving DecidableEq, Inhabited

def Tables.names : Tables → List String
  | .one name => [name]
  | .many names => names

/-- A column, possibly with a weight. -/
inductive DataField
  | plain (name : String)
  | weighted (name : String) (weight : Option Binary64)
deriving DecidableEq, Inhabited

def DataField.name : DataField → String
  | .plain name => name
  | .weighted name _ => name

/-- One column, or a list of columns and weighted columns. -/
inductive DataFields
  | one (name : String)
  | many (fields : List DataField)
deriving DecidableEq, Inhabited

/-- The columns as a list, without weights. -/
def DataFields.names : DataFields → List String
  | .one name => [name]
  | .many fields => fields.map DataField.name

/-- A statement written by hand. -/
structure HandWritten where
  query : Option String
deriving DecidableEq, Inhabited

/-- **Descriptors.** -/
structure Descriptor where
  id : Option String
  tables : Option Tables
  kind : Option Kind
  includeFields : Option (List String)
  /-- The value that rows are matched with; it is not null. -/
  value : Option Json
  dataFields : Option DataFields
  connective : Option Connective
  sortField : Option String
  sortBy : Option String
  condition : Option String
  size : Option Nat
  offset : Option Nat
  handWritten : Option HandWritten
  execute : Option Bool
  vectorField : Option String
  vector : Option (List Binary64)
  aggregations : Option (List Aggregation)
  interval : Option Binary64
  aggregationSize : Option Nat
deriving DecidableEq, Inhabited

namespace Descriptor

/-- The kind, which is `search` if none is given. -/
def kindOrDefault (d : Descriptor) : Kind := d.kind.getD .search

/-- The descriptor takes part in compilation and execution. -/
def isExecuted (d : Descriptor) : Bool := d.execute.getD true

/-- The name of the descriptor in the answer. -/
def name (d : Descriptor) : String := d.id.getD ""

def tableNames (d : Descriptor) : List String :=
  ((d.tables.map Tables.names).getD []).filter fun t => !t.isEmpty

def fieldNames (d : Descriptor) : List String := (d.dataFields.map DataFields.names).getD []

/-- The value as text, if it is a text that is not empty. -/
def valueText? (d : Descriptor) : Option String :=
  (d.value.bind Json.string?).filter fun s => !s.isEmpty

/-- A search for neighbours of its value that brings no vector along. -/
def wantsEmbedding (d : Descriptor) : Bool :=
  d.vectorField.isSome && d.vector.isNone &&
    (d.kindOrDefault == .search || d.kindOrDefault == .suggestion) && d.valueText?.isSome

end Descriptor

end QueryBatch
