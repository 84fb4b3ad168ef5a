import QueryBatch.Duration
import QueryBatch.Sql.Statement

/-!
# Execution results

* `Row`: a row, keyed by column.
* `ExecutionError`: why a statement has no rows.
* `Response`: the settled result of one compiled query.
-/

namespace QueryBatch

/-- **Rows**, keyed by column. -/
abbrev Row := Keyed Json

/-- Why a statement has no rows. -/
inductive ExecutionError
  | failed (message : String)
  | timeout (after : Duration)
  | cancelled
deriving DecidableEq, Inhabited

def ExecutionError.message : ExecutionError → String
  | .failed message => message
  | .timeout after => s!"Query timed out after {after.text}"
  | .cancelled => "Query cancelled"

/-- **Responses**: the settled result of one compiled query and the milliseconds that it took. -/
structure Response where
  name : String
  result : Except ExecutionError (List Row)
  took : Binary64
  shape : Shape

end QueryBatch
