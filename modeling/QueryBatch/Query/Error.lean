import QueryBatch.Json.Printer

/-!
# Errors of a query

Why a descriptor has no statement. Any such error rejects the batch as a whole.

* `QueryError`: a missing part, an argument that does not fit, or a name that is not safe to write.
-/

namespace QueryBatch

/-- Why an argument does not fit. -/
inductive ArgumentError
  /-- An order other than the two there are. -/
  | unknownOrder (order : String)
  /-- A value to match with that is or contains an object, or has arrays in arrays. -/
  | notMatchable
  /-- A value of a range query that is no object. -/
  | notRange
  /-- A bound of a range that is neither number nor text. -/
  | notBound (side : String) (value : Json)
  /-- A value without columns to match it with. -/
  | valueWithoutField
  /-- A query for bounds that asks for neither of them. -/
  | noBound
  /-- A histogram without a bucket width above zero. -/
  | noInterval
  | other (reason : String)
deriving DecidableEq, Inhabited

def ArgumentError.message : ArgumentError → String
  | .unknownOrder order => s!"sortBy must be one of `asc` or `desc`, got `{order}`"
  | .notMatchable =>
    "value should be one of array or string when type is one of `search, suggestion, term`"
  | .notRange => "value should be an object when type is `range`"
  | .notBound side value => s!"range `{side}` must be a number or a string, got {value.compact}"
  | .valueWithoutField => "`dataField` is required when `value` is passed!"
  | .noBound => "one of min/max is required!"
  | .noInterval => "a positive `interval` is required for histogram"
  | .other reason => reason

/-- **Errors of a query.** -/
inductive QueryError
  | missingField (name : String)
  | invalidArgument (reason : ArgumentError)
  | invalidIdentifier (name : String)
deriving DecidableEq, Inhabited

def QueryError.message : QueryError → String
  | .missingField name => s!"`{name}` is a required property!"
  | .invalidArgument reason => s!"Invalid argument: {reason.message}"
  | .invalidIdentifier name => s!"Invalid identifier: {name}"

end QueryBatch
