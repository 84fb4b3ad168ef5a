import QueryBatch.Sql.Condition

/-!
# Building conditions on shared parameters

The conditions of a statement are built one after the other on one set of parameters, which each of
them changes while it is built. A builder that fails does not take back what it has bound until
then; so it matters in which order a builder checks, reads and binds.

* `Builder`, `Builder.attempt`: builders, and what is left of one that has come to its end.
* `Builder.clause`, `Builder.rangeClause`: the builders of the two kinds of conditions.
* `Builder.attempt_clause`, `Builder.attempt_rangeClause`: **they are `Filter.tokens` and
  `rangeConditionOf`**, and one that fails has bound nothing.
* `ClauseCall.runAll`: calls of builders, one after the other.
-/

namespace QueryBatch

/-- **Builders** change a set of parameters, and may fail on the way. -/
abbrev Builder := EStateM QueryError Params

namespace Builder

/-- The end of a builder that starts on some parameters: its result, and the parameters then. -/
def attempt {α : Type} (b : Builder α) (params : Params) : Except QueryError α × Params :=
  match b.run params with
  | .ok a after => (.ok a, after)
  | .error e after => (.error e, after)

/-- Binds a value and gives its placeholder. -/
def bindValue (s : Scalar) : Builder String := modifyGet fun params => params.bind s

/-- Binds values in order. -/
def bindValues (l : List Scalar) : Builder (List String) := l.mapM bindValue

/-- A bound as it stands in a statement. -/
def bound : Bound → Builder String
  | .number n => pure n.text
  | .text s => bindValue (.text s)

/-- The condition that a column lies in a range. -/
def range (field : String) (r : Range) : Builder String :=
  match r.start, r.stop with
  | some start, some stop => do
    let low ← bound start
    let high ← bound stop
    pure (field ++ " between " ++ low ++ " and " ++ high)
  | some start, none => do
    let low ← bound start
    pure (field ++ " > " ++ low)
  | none, some stop => do
    let high ← bound stop
    pure (field ++ " < " ++ high)
  | none, none => pure ""

/-- The condition for a range that is still a JSON value, which is read before anything is
bound. -/
def rangeClause (field : String) (value : Option Json) : Builder (Option String) :=
  match Range.parse value with
  | .error e => throw e
  | .ok none => pure none
  | .ok (some r) => do
    let condition ← range field r
    pure (some condition)

/-- The single conditions of a filter on some columns. -/
def conditions (filter : Filter) (field : String) (others : List String) :
    Builder (List (List String)) :=
  match filter with
  | .contains value => do
    let placeholders ← bindValues (value.scalars.map pattern)
    pure ((field :: others).flatMap fun f => placeholders.map fun p => [f, "LIKE", p])
  | .equals (.single s) => do
    let placeholder ← bindValue s
    pure ((field :: others).map fun f => [f, "=", placeholder])
  | .equals (.many l) => do
    let placeholders ← bindValues l
    pure ((field :: others).map fun f => [f, "IN", "(" ++ Text.joined ", " placeholders ++ ")"])
  | .range r => do
    let condition ← range field r
    pure [[condition]]

/-- The condition of a filter, word by word. -/
def clause (filter : Option Filter) (fields : List String) (connective : Connective) :
    Builder (List String) :=
  match filter, fields with
  | none, _ => pure []
  | some _, [] => throw (.invalidArgument .valueWithoutField)
  | some f, field :: others => do
    let found ← conditions f field others
    pure (connect connective found)

/-! ### What the builders build -/

variable {params : Params}

theorem run_bind {α β : Type} {b : Builder α} {next : α → Builder β} {a : α} {after : Params}
    (h : b.run params = .ok a after) : (b >>= next).run params = (next a).run after := by
  simp only [EStateM.run] at h
  simp only [EStateM.run, bind, EStateM.bind, h]

theorem run_bindValues (l : List Scalar) :
    (bindValues l).run params = .ok (params.bindAll l).1 (params.bindAll l).2 := by
  induction l generalizing params with
  | nil => rfl
  | cons s r ih =>
    have hfirst : (bindValue s).run params = .ok (params.bind s).1 (params.bind s).2 := rfl
    have hrest := @ih (params.bind s).2
    rw [bindValues, List.mapM_cons, run_bind hfirst]
    exact run_bind hrest

theorem run_bound (b : Bound) :
    (bound b).run params = .ok (renderBound b params).1 (renderBound b params).2 := by
  cases b <;> rfl

theorem run_range (field : String) (r : Range) :
    (range field r).run params =
      .ok (rangeCondition field r params).1 (rangeCondition field r params).2 := by
  unfold range rangeCondition
  cases r.start with
  | none =>
    cases r.stop with
    | none => rfl
    | some stop => exact run_bind (run_bound stop)
  | some start =>
    cases r.stop with
    | none => exact run_bind (run_bound start)
    | some stop =>
      refine (run_bind (run_bound start)).trans ?_
      exact run_bind (run_bound stop)

theorem run_conditions (filter : Filter) (field : String) (others : List String) :
    (conditions filter field others).run params =
      .ok (filter.conditions field others params).1 (filter.conditions field others params).2 := by
  cases filter with
  | contains value => exact run_bind (run_bindValues _)
  | equals value =>
    cases value with
    | single s => rfl
    | many l => exact run_bind (run_bindValues l)
  | range r => exact run_bind (run_range field r)

/-- The end of a computation that keeps the parameters it has started on when it fails. -/
def kept {α : Type} (before : Params) :
    Except QueryError (α × Params) → Except QueryError α × Params
  | .ok (a, after) => (.ok a, after)
  | .error e => (.error e, before)

/-- **A clause is built as `Filter.tokens` has it**, and nothing is bound if it fails. -/
theorem attempt_clause (filter : Option Filter) (fields : List String) (connective : Connective) :
    (clause filter fields connective).attempt params =
      kept params (Filter.tokens filter fields connective params) := by
  cases filter with
  | none => rfl
  | some f =>
    cases fields with
    | nil => rfl
    | cons field others =>
      rw [attempt, clause, run_bind (run_conditions f field others)]
      rfl

/-- **The condition of a range is built as `rangeConditionOf` has it**, and nothing is bound if the
value is no range. -/
theorem attempt_rangeClause (field : String) (value : Option Json) :
    (rangeClause field value).attempt params =
      kept params (rangeConditionOf field value params) := by
  unfold rangeClause rangeConditionOf attempt
  cases Range.parse value with
  | error e => rfl
  | ok o =>
    cases o with
    | none => rfl
    | some r =>
      simp only [run_bind (run_range field r)]
      rfl

end Builder

/-! ### Calls -/

/-- **Calls** of the two builders, with whatever they are given. -/
inductive ClauseCall
  | clause (filter : Option Filter) (fields : List String) (connective : Connective)
  | range (field : String) (value : Option Json)

namespace ClauseCall

/-- What a call builds: the words of a condition, or no words if there is none. -/
def build : ClauseCall → Builder (List String)
  | .clause filter fields connective => Builder.clause filter fields connective
  | .range field value => Option.toList <$> Builder.rangeClause field value

/-- **Calls one after the other**, each on the parameters that the one before has left: their
results, and the parameters at last. A call that fails does not keep the next from being made. -/
def runAll (params : Params) : List ClauseCall → List (Except QueryError (List String)) × Params
  | [] => ([], params)
  | call :: rest =>
    let (result, after) := call.build.attempt params
    let (results, final) := runAll after rest
    (result :: results, final)

end ClauseCall

end QueryBatch
