import QueryBatch.Sql.Column
import QueryBatch.Sql.Condition
import QueryBatch.Sql.Order
import QueryBatch.Sql.Statement

/-!
# Statements of searches

* `SearchQuery.compile`: selects the page of rows that a search asks for.
-/

namespace QueryBatch.SearchQuery

/-- The selected columns. The number of all matching rows is added if the page is going to be
served. -/
def selected (q : SearchQuery) (countsRows : Bool) : String :=
  Text.joined ", " q.includeFields ++
    (if countsRows then ", COUNT(*) OVER() AS " ++ Column.totalCount else "")

/-- The words of a statement with a condition, if there is one. -/
def words (q : SearchQuery) (countsRows : Bool) (condition : Option String) : List String :=
  let order := q.orderTokens
  ["SELECT", q.selected countsRows, "FROM", Text.joined ", " q.tables] ++
    (match condition with
      | some c => ["WHERE", c]
      | none => []) ++
    (if order.isEmpty then [] else "ORDER BY" :: order) ++
    ["LIMIT " ++ toString q.size] ++
    (match q.offset with
      | some n => ["OFFSET " ++ toString n]
      | none => [])

/-- **The statement of a search.** -/
def compile (q : SearchQuery) (countsRows : Bool) : Except QueryError Compiled := do
  let (tokens, params) ←
    Filter.tokens (q.value.map .contains) q.dataFields q.connective Params.empty
  let condition := mergeConditions (conditionOf tokens) q.condition
  pure ⟨some ⟨Text.joined " " (q.words countsRows condition), params.bound⟩, .search⟩

end QueryBatch.SearchQuery
