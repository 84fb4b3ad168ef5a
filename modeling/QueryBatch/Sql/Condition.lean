import QueryBatch.Query.Resolve
import QueryBatch.Sql.Params
import QueryBatch.Text.Joined

/-!
# Conditions

What stands behind `WHERE`: the condition that follows from the value of a query, and the one that
the caller wrote.

* `Filter`: how a value selects rows. `Filter.tokens`: its condition, word by word.
* `rangeCondition`: the condition of a range; `rangeConditionOf` reads the range from a JSON value
  first.
* `mergeConditions`: both conditions at once.
-/

namespace QueryBatch

/-- **Filters**: how a value selects rows. -/
inductive Filter
  /-- A column contains one of the scalars as text. -/
  | contains (value : Match)
  /-- A column equals one of the scalars. -/
  | equals (value : Match)
  /-- A column lies in a range. -/
  | range (value : Range)

def Connective.operator : Connective → String
  | .or => "OR"
  | .and => "AND"

/-- A bound as it stands in a statement: numbers as they are, texts as parameters. -/
def renderBound (b : Bound) (params : Params) : String × Params :=
  match b with
  | .number n => (n.text, params)
  | .text s => params.bind (.text s)

/-- The condition that a column lies in a range. Both bounds are included if there are two,
neither if there is one. -/
def rangeCondition (field : String) (r : Range) (params : Params) : String × Params :=
  match r.start, r.stop with
  | some start, some stop =>
    let (low, params) := renderBound start params
    let (high, params) := renderBound stop params
    (field ++ " between " ++ low ++ " and " ++ high, params)
  | some start, none =>
    let (low, params) := renderBound start params
    (field ++ " > " ++ low, params)
  | none, some stop =>
    let (high, params) := renderBound stop params
    (field ++ " < " ++ high, params)
  | none, none => ("", params)

/-- The condition for a range that is still a JSON value; none if it has no bounds. -/
def rangeConditionOf (field : String) (value : Option Json) (params : Params) :
    Except QueryError (Option String × Params) := do
  match ← Range.parse value with
  | none => pure (none, params)
  | some r =>
    let (condition, params) := rangeCondition field r params
    pure (some condition, params)

/-- The pattern of all texts that contain a scalar. -/
def pattern (s : Scalar) : Scalar := .text ("%" ++ s.asText ++ "%")

/-- The single conditions of a filter on some columns, each as its words. A range speaks of the
first column only. -/
def Filter.conditions (filter : Filter) (field : String) (others : List String) (params : Params) :
    List (List String) × Params :=
  match filter with
  | .contains value =>
    let (placeholders, params) := params.bindAll (value.scalars.map pattern)
    ((field :: others).flatMap fun f => placeholders.map fun p => [f, "LIKE", p], params)
  | .equals (.single s) =>
    let (placeholder, params) := params.bind s
    ((field :: others).map fun f => [f, "=", placeholder], params)
  | .equals (.many l) =>
    let (placeholders, params) := params.bindAll l
    ((field :: others).map fun f => [f, "IN", "(" ++ Text.joined ", " placeholders ++ ")"], params)
  | .range r =>
    let (condition, params) := rangeCondition field r params
    ([[condition]], params)

/-- Puts a connective between conditions. -/
def connect (connective : Connective) : List (List String) → List String
  | [] => []
  | [c] => c
  | c :: r => c ++ connective.operator :: connect connective r

/-- **The condition of a filter**, word by word. With no filter there is none, and every row
matches. -/
def Filter.tokens (filter : Option Filter) (fields : List String) (connective : Connective)
    (params : Params) : Except QueryError (List String × Params) :=
  match filter, fields with
  | none, _ => .ok ([], params)
  | some _, [] => .error (.invalidArgument .valueWithoutField)
  | some f, field :: others =>
    let (conditions, params) := f.conditions field others params
    .ok (connect connective conditions, params)

/-- A text that is not blank, without the blanks around it. -/
def notBlank? (s : String) : Option String :=
  let t := Text.trim s
  if t.isEmpty then none else some t

/-- **Both conditions**: rows have to meet the computed one and the one of the caller, if there
are both. -/
def mergeConditions (computed : Option String) (written : Option String) : Option String :=
  match computed.filter (fun s => !s.isEmpty), written.bind notBlank? with
  | some c, some w => some ("(" ++ c ++ ") AND (" ++ w ++ ")")
  | some c, none => some c
  | none, some w => some w
  | none, none => none

/-- The words of a condition as one text; no words are no condition. -/
def conditionOf (tokens : List String) : Option String :=
  if tokens.isEmpty then none else some (Text.joined " " tokens)

end QueryBatch
