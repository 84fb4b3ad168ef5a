import QueryBatch.Sql.Range
import QueryBatch.Sql.Search
import QueryBatch.Sql.Term

/-!
# Compilation

* `Query.compile`: the statement of a query and the shape of its rows.
* `Descriptor.compile`: the same from a descriptor, under its name.
-/

namespace QueryBatch

/-- **Compilation.** `countsRows` adds the number of all matching rows to a search, which is
needed to serve it. -/
def Query.compile (countsRows : Bool) : Query → Except QueryError Compiled
  | .written q => .ok ⟨some ⟨q.statement, []⟩, .written q.kind q.dataField⟩
  | .search q => q.compile countsRows
  | .term q => q.compile
  | .range q => q.compile

/-- A descriptor resolved and compiled, under its name. -/
def Descriptor.compile (d : Descriptor) (embedded : Option (List Binary64)) (defaultSize : Nat)
    (countsRows : Bool) : Except QueryError (String × Compiled) := do
  let named ← d.resolve embedded defaultSize
  let compiled ← named.query.compile countsRows
  pure (named.name, compiled)

end QueryBatch
