import QueryBatch.Sql.Column
import QueryBatch.Sql.Condition
import QueryBatch.Sql.Statement

/-!
# Statements of term queries

* `TermQuery.compile`: counts the rows for each value of the first data column, most frequent first.
-/

namespace QueryBatch.TermQuery

/-- The words of the statement on a column. -/
def words (q : TermQuery) (field : String) : List String :=
  let count := Column.termCount field
  ["SELECT", field ++ ", COUNT(*) AS " ++ count, "FROM", Text.joined ", " q.tables] ++
    (match mergeConditions none q.condition with
      | some c => ["WHERE", c]
      | none => []) ++
    ["GROUP BY " ++ field ++ " ORDER BY " ++ count ++ " DESC"] ++
    (match q.aggregationSize with
      | some n => ["LIMIT " ++ toString n]
      | none => [])

/-- **The statement of a term query.** -/
def compile (q : TermQuery) : Except QueryError Compiled :=
  match q.dataFields with
  | [] => .error (.missingField "dataField")
  | field :: _ => .ok ⟨some ⟨Text.joined " " (q.words field), []⟩, .term field⟩

end QueryBatch.TermQuery
