/-!
# Names of computed columns

The columns that statements add to their rows, and that are read back when the rows are reshaped.

* `Column.termCount`: the name of the count of a term query, made from the name of its column.
-/

namespace QueryBatch.Column

/-- The number of all rows that a search matches, on every row of a page. -/
def totalCount : String := "rs__total_count"

/-- The least value of a range. -/
def least : String := "rs__overall_min_year"

/-- The greatest value of a range. -/
def greatest : String := "rs__overall_max_year"

/-- The lower edge of a bucket. -/
def bucketKey : String := "rs__key"

def bucketCount : String := "rs__doc_count"

/-- The relation that holds the bounds of a histogram. -/
def boundsRelation : String := "OverallStats"

/-- Letters and digits stay; any other character becomes an underscore. -/
def nameChar (c : Char) : Char := if c.isAlphanum then c else '_'

/-- The number of rows that share a value of a column. -/
def termCount (field : String) : String :=
  "rs__term_count_" ++ String.ofList (field.toList.map nameChar)

end QueryBatch.Column
