import QueryBatch.Query.Resolve
import QueryBatch.Text.Joined

/-!
# Orders

What stands behind `ORDER BY`: the distance to a vector, or else a column and a direction.

* `sortTokens`, `vectorTokens`: the two orders, word by word.
* `SearchQuery.orderTokens`: the order of a search; the two are never combined.
-/

namespace QueryBatch

/-- An order by a column, which is the first data column if none is named; with neither there is
no order. -/
def sortTokens (sortField : Option String) (sortBy : SortOrder) (dataFields : List String) :
    List String :=
  match sortField.or dataFields.head? with
  | some field => [field, sortBy.name]
  | none => []

/-- A vector as it stands in a statement. -/
def vectorLiteral (vector : List Binary64) : String :=
  "'[" ++ Text.joined "," (vector.map Layout.component.write) ++ "]'"

/-- An order by the distance to a vector. -/
def vectorTokens (v : VectorOrder) : List String := [v.field, "<->", vectorLiteral v.vector]

/-- **The order of a search.** -/
def SearchQuery.orderTokens (q : SearchQuery) : List String :=
  match q.vector with
  | some v => vectorTokens v
  | none => sortTokens q.sortField q.sortBy q.dataFields

end QueryBatch
