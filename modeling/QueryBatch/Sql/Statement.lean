import QueryBatch.Query.Resolve
import QueryBatch.Sql.Params

/-!
# Statements

What a descriptor is compiled to: a statement with its parameters, if anything is to be run, and
the facts that are needed to reshape the rows it gives.

* `Statement`, `Shape`, `Compiled`: the parts, with their JSON values.
-/

namespace QueryBatch

/-- **Statements** with values for their placeholders. -/
structure Statement where
  sql : String
  params : List Scalar
deriving DecidableEq, Inhabited

/-- How the rows of a range statement are reshaped. -/
structure RangeShape where
  dataField : Option String
  minField : Option String
  maxField : Option String
  histogram : Bool
  /-- Nothing is run, and the answer is null. -/
  isEmpty : Bool
deriving DecidableEq, Inhabited

/-- **Shapes**: how the rows of a statement are reshaped. -/
inductive Shape
  | search
  | written (kind : Kind) (dataField : Option String)
  | term (dataField : String)
  | range (shape : RangeShape)
deriving DecidableEq, Inhabited

/-- The word for a shape in metrics. -/
def Shape.label : Shape → String
  | .search => "search"
  | .written _ _ => "raw"
  | .term _ => "term"
  | .range _ => "range"

def Shape.encode : Shape → Json
  | .search => .object [("kind", .string "search")]
  | .written kind field =>
    .object [("dataField", .ofString? field), ("kind", .string "raw"),
      ("queryType", .string kind.name)]
  | .term field => .object [("dataField", .string field), ("kind", .string "term")]
  | .range s => .object [
      ("dataField", .ofString? s.dataField), ("emptyResponse", .bool s.isEmpty),
      ("histogram", .bool s.histogram), ("kind", .string "range"),
      ("maxField", .ofString? s.maxField), ("minField", .ofString? s.minField)]

/-- **Compiled queries.** -/
structure Compiled where
  statement : Option Statement
  shape : Shape
deriving DecidableEq, Inhabited

/-- The fields of a statement, without an empty list of parameters. -/
def Statement.fields (s : Statement) : List (String × Json) :=
  (if s.params.isEmpty then [] else [("params", .array (s.params.map Scalar.encode))]) ++
    [("statement", .string s.sql)]

def Statement.encode (s : Statement) : Json := .object s.fields

def Compiled.encode (c : Compiled) : Json :=
  .object (("customData", c.shape.encode) :: (c.statement.map Statement.fields).getD [])

end QueryBatch
