import QueryBatch.Proofs.Outcome
import QueryBatch.Sql.Compile

/-! # Statements around their conditions

A statement is text with its condition in one place, or in two if it is a histogram with bounds.
The text around the condition, the *frame*, depends neither on the value of the query nor on what
its author wrote behind `where`; the condition, on the other hand, depends on nothing else but
these two and the columns.

* `Text.joined_cons`, `Text.led_append`: joined text as a first text and texts led by a separator.
* `Query.frame`, `Query.around`: the text around a condition, and a statement around it.
* `Query.conditionCount`, `Query.length_frame`: in how many places the condition stands.
* `Query.tokens`, `Query.written?`: the two parts of a condition.
* `Query.compile_eq_ok`: **what a compiled query is**: its statement stands around its condition,
  and its parameters are those of the computed part. Whatever is proved of statements follows from
  this one lemma.
-/

namespace QueryBatch

/-! ### Joined text -/

namespace Text

/-- Texts with a separator in front of each. -/
def led (separator : String) : List String → String
  | [] => ""
  | s :: r => separator ++ s ++ led separator r

theorem joined_cons (separator s : String) (r : List String) :
    joined separator (s :: r) = s ++ led separator r := by
  induction r generalizing s with
  | nil => simp [led]
  | cons t r ih => rw [joined_cons_cons, ih t, led]; simp only [String.append_assoc]

theorem led_append (separator : String) (l m : List String) :
    led separator (l ++ m) = led separator l ++ led separator m := by
  induction l with
  | nil => simp [led]
  | cons s r ih => rw [List.cons_append, led, led, ih]; simp only [String.append_assoc]

theorem joined_ne_empty {separator s : String} {l : List String} (hs : s ∈ l) (hne : s ≠ "") :
    joined separator l ≠ "" := by
  induction l with
  | nil => cases hs
  | cons t r ih =>
    cases r with
    | nil =>
      obtain rfl := List.mem_singleton.mp hs
      exact hne
    | cons u r =>
      rw [joined_cons_cons]
      intro h
      simp only [String.append_eq_empty_iff] at h
      rcases List.mem_cons.mp hs with rfl | hs
      · exact hne h.1.1
      · exact ih hs h.2

end Text

/-! ### The text around a condition -/

/-- A search up to its condition. -/
def SearchQuery.opening (q : SearchQuery) (countsRows : Bool) : String :=
  "SELECT " ++ q.selected countsRows ++ " FROM " ++ Text.joined ", " q.tables

/-- A search from its condition on. -/
def SearchQuery.closing (q : SearchQuery) : String :=
  (if q.orderTokens.isEmpty then "" else " ORDER BY" ++ Text.led " " q.orderTokens) ++
    " LIMIT " ++ toString q.size ++ (q.offset.map fun n => " OFFSET " ++ toString n).getD ""

/-- A term query on a column up to its condition. -/
def TermQuery.opening (q : TermQuery) (field : String) : String :=
  "SELECT " ++ field ++ ", COUNT(*) AS " ++ Column.termCount field ++ " FROM " ++
    Text.joined ", " q.tables

/-- A term query on a column from its condition on. -/
def TermQuery.closing (q : TermQuery) (field : String) : String :=
  " GROUP BY " ++ field ++ " ORDER BY " ++ Column.termCount field ++ " DESC" ++
    (q.aggregationSize.map fun n => " LIMIT " ++ toString n).getD ""

namespace RangeQuery

/-- One of the bounds is asked for. -/
def wantsBounds (q : RangeQuery) : Bool := q.wants .min || q.wants .max

/-- The selected bounds. -/
def boundColumns (q : RangeQuery) (field : String) : List String :=
  (if q.wants .min then ["MIN(" ++ field ++ ") AS " ++ Column.least] else []) ++
    (if q.wants .max then ["MAX(" ++ field ++ ") AS " ++ Column.greatest] else [])

/-- The names of the selected bounds, as columns of the relation that holds them. -/
def joinedBounds (q : RangeQuery) : List String :=
  (if q.wants .min then ["o." ++ Column.least] else []) ++
    (if q.wants .max then ["o." ++ Column.greatest] else [])

/-- The statement for the bounds up to its condition. -/
def boundsOpening (q : RangeQuery) (field table : String) : String :=
  "SELECT " ++ Text.joined ", " (q.boundColumns field) ++ " FROM " ++ quotedTable table

/-- The statement for the buckets up to its condition, without the relation of the bounds. -/
def bucketsOpening (q : RangeQuery) (field table : String) (width : Binary64) : String :=
  "SELECT " ++ Text.joined ", "
      ([bucketNumber field width ++ " * " ++ widthLiteral width ++ " AS " ++ Column.bucketKey,
        "COUNT(*) AS " ++ Column.bucketCount] ++ q.joinedBounds) ++
    " FROM " ++ quotedTable table ++
    (if q.wantsBounds then ", " ++ Column.boundsRelation ++ " o" else "")

/-- The statement for the buckets from its condition on. -/
def bucketsClosing (q : RangeQuery) (field : String) (width : Binary64) : String :=
  " GROUP BY " ++ Text.joined ", " (bucketNumber field width :: q.joinedBounds) ++
    " ORDER BY " ++ Column.bucketKey

/-- The text around the conditions of a range statement. A histogram with bounds has two: that of
the bounds, and its own. -/
def frameOn (q : RangeQuery) (field table : String) : List String :=
  if q.wants .histogram then
    let width := q.width?.getD .one
    if q.wantsBounds then
      ["WITH " ++ Column.boundsRelation ++ " AS (" ++ q.boundsOpening field table,
        ") " ++ q.bucketsOpening field table width, q.bucketsClosing field width]
    else [q.bucketsOpening field table width, q.bucketsClosing field width]
  else [q.boundsOpening field table, ""]

end RangeQuery

namespace Query

/-- **The frame** of a query: the text around its conditions. A statement written by hand has
none. -/
def frame (countsRows : Bool) : Query → List String
  | .written q => [q.statement]
  | .search q => [q.opening countsRows, q.closing]
  | .term q => q.dataFields.head?.elim [] fun field => [q.opening field, q.closing field]
  | .range q =>
    match q.dataFields, q.tables with
    | field :: _, table :: _ => q.frameOn field table
    | _, _ => []

/-- How often its condition stands in the statement of a query. -/
def conditionCount : Query → Nat
  | .written _ => 0
  | .search _ | .term _ => 1
  | .range q => if q.wants .histogram && q.wantsBounds then 2 else 1

/-- **The statement of a query around a condition.** -/
def around (q : Query) (countsRows : Bool) (condition : Option String) : String :=
  Text.joined (whereClause condition) (q.frame countsRows)

/-- The condition that follows from the value of a query, word by word, with its parameters. -/
def tokens : Query → Except QueryError (List String × Params)
  | .search q => Filter.tokens (q.value.map .contains) q.dataFields q.connective .empty
  | .range q => Filter.tokens (q.value.map .range) (q.dataFields.take 1) .or .empty
  | .written _ | .term _ => .ok ([], .empty)

/-- What the author of a query wrote behind `where`. -/
def written? : Query → Option String
  | .written _ => none
  | .search q => q.condition
  | .term q => q.condition
  | .range q => q.condition

end Query

/-! ### Compiled queries -/

theorem SearchQuery.joined_words (q : SearchQuery) (countsRows : Bool)
    (condition : Option String) :
    Text.joined " " (q.words countsRows condition) =
      q.opening countsRows ++ whereClause condition ++ q.closing := by
  have ho : Text.led " " (if q.orderTokens.isEmpty then [] else "ORDER BY" :: q.orderTokens) =
      if q.orderTokens.isEmpty then "" else " ORDER BY" ++ Text.led " " q.orderTokens := by
    split
    · rfl
    · apply String.ext; simp [Text.led]
  -- the condition and the offset are words that may be missing
  cases condition <;> cases hn : q.offset <;>
    simp only [words, hn, List.cons_append, List.nil_append, Text.joined_cons, Text.led,
      Text.led_append, ho, whereClause] <;>
    apply String.ext <;> simp [opening, closing, hn]

theorem TermQuery.joined_words (q : TermQuery) (field : String) :
    Text.joined " " (q.words field) =
      q.opening field ++ whereClause (mergeConditions none q.condition) ++ q.closing field := by
  cases hc : mergeConditions none q.condition <;> cases hn : q.aggregationSize <;>
    simp only [words, hc, hn, List.cons_append, List.nil_append, Text.joined_cons, Text.led,
      whereClause] <;>
    apply String.ext <;> simp [opening, closing, hn]

namespace RangeQuery

theorem wants_of_ne_nil {q : RangeQuery} (h : q.aggregations ≠ []) :
    q.wants .histogram = true ∨ q.wantsBounds = true := by
  obtain ⟨a, l, hl⟩ := List.exists_cons_of_ne_nil h
  cases a <;> simp [wants, wantsBounds, hl]

/-- The statement for the bounds that are asked for, around a condition. -/
def boundsAround (q : RangeQuery) (field table : String) (condition : Option String) :
    BoundsStatement where
  minField := if q.wants .min then some Column.least else none
  maxField := if q.wants .max then some Column.greatest else none
  sql := q.boundsOpening field table ++ whereClause condition

theorem bounds?_eq (q : RangeQuery) (field table : String) (condition : Option String) :
    q.bounds? field table condition =
      .ok (if q.wantsBounds then some (q.boundsAround field table condition) else none) := by
  unfold bounds? wantsBounds
  split
  · next h =>
    have hn : (!q.wants .min && !q.wants .max) = false := by
      rcases Bool.or_eq_true_iff.mp h with h | h <;> simp [h]
    simp only [BoundsStatement.build, hn, Bool.false_eq_true, if_false]
    rfl
  · rfl

theorem joined_columns (q : RangeQuery) (field table : String) (condition : Option String) :
    (q.boundsAround field table condition).columns.map (fun c => "o." ++ c) = q.joinedBounds := by
  cases h : q.wants .min <;> cases h' : q.wants .max <;>
    simp [BoundsStatement.columns, boundsAround, joinedBounds, h, h']

theorem joinedBounds_eq_nil {q : RangeQuery} (h : q.wantsBounds = false) :
    q.joinedBounds = [] := by
  simp only [wantsBounds, Bool.or_eq_false_iff] at h
  simp [joinedBounds, h.1, h.2]

theorem histogramStatement_bounds {q : RangeQuery} (h : q.wantsBounds = true)
    (field table : String) (width : Binary64) (condition : Option String) :
    histogramStatement field table width condition (some (q.boundsAround field table condition)) =
      Text.joined (whereClause condition)
        ["WITH " ++ Column.boundsRelation ++ " AS (" ++ q.boundsOpening field table,
          ") " ++ q.bucketsOpening field table width, q.bucketsClosing field width] := by
  unfold histogramStatement
  simp only [Option.map_some, Option.getD_some, q.joined_columns field table condition]
  simp only [Option.isSome_some, if_true, boundsAround, bucketsOpening, bucketsClosing, h]
  simp only [Text.joined_cons_cons, Text.joined_singleton]
  simp only [String.append_assoc]

theorem histogramStatement_none {q : RangeQuery} (h : q.wantsBounds = false)
    (field table : String) (width : Binary64) (condition : Option String) :
    histogramStatement field table width condition none =
      Text.joined (whereClause condition)
        [q.bucketsOpening field table width, q.bucketsClosing field width] := by
  unfold histogramStatement
  simp only [Option.map_none, Option.getD_none, List.map_nil, Option.isSome_none,
    Bool.false_eq_true, if_false, bucketsOpening, bucketsClosing, h, joinedBounds_eq_nil h]
  simp only [Text.joined_cons_cons, Text.joined_singleton]
  simp only [String.empty_append, String.append_empty, String.append_assoc]

theorem sql_eq_ok {q : RangeQuery} {field table sql : String} {condition : Option String}
    (ha : q.aggregations ≠ [])
    (h : q.sql field table condition
      (if q.wantsBounds then some (q.boundsAround field table condition) else none) = .ok sql) :
    sql = Text.joined (whereClause condition) (q.frameOn field table) := by
  unfold RangeQuery.sql at h
  unfold frameOn
  by_cases hh : q.wants .histogram = true
  · rw [if_pos hh] at h ⊢
    cases hw : q.width? with
    | none => rw [hw] at h; cases h
    | some width =>
      simp only [hw, Except.ok.injEq] at h
      subst h
      cases hq : q.wantsBounds with
      | true => exact histogramStatement_bounds hq field table width condition
      | false => exact histogramStatement_none hq field table width condition
  · rw [if_neg hh] at h ⊢
    have hq := (wants_of_ne_nil ha).resolve_left hh
    simp only [hq, if_true, Option.map_some, Option.getD_some, Except.ok.injEq] at h
    subst h
    simp [boundsAround]

end RangeQuery

/-- **What a compiled query is**: its statement stands around the condition that is put together
from the computed part and the written one, and its parameters are those of the computed part. -/
theorem Query.compile_eq_ok {q : Query} {countsRows : Bool} {c : Compiled} {s : Statement}
    (h : q.compile countsRows = .ok c) (hs : c.statement = some s) :
    ∃ tokens params, q.tokens = .ok (tokens, params) ∧
      s = ⟨q.around countsRows (mergeConditions (conditionOf tokens) q.written?),
        params.bound⟩ := by
  cases q with
  | written q =>
    cases h
    cases hs
    exact ⟨[], .empty, rfl, rfl⟩
  | search q =>
    obtain ⟨⟨tokens, params⟩, ht, hc⟩ := Outcome.bind_eq_ok.mp h
    cases hc
    cases hs
    exact ⟨tokens, params, ht, by rw [q.joined_words]; rfl⟩
  | term q =>
    simp only [compile, TermQuery.compile] at h
    cases hf : q.dataFields with
    | nil => rw [hf] at h; cases h
    | cons field others =>
      rw [hf] at h
      cases h
      cases hs
      refine ⟨[], .empty, rfl, ?_⟩
      rw [q.joined_words]
      simp [around, frame, hf, conditionOf, written?, Params.empty]
  | range q =>
    simp only [compile, RangeQuery.compile] at h
    by_cases ha : q.aggregations = []
    · rw [ha] at h; cases h; cases hs
    rw [if_neg (by simpa using ha)] at h
    cases hf : q.dataFields with
    | nil => rw [hf] at h; cases h
    | cons field others =>
      cases ht : q.tables with
      | nil => rw [hf, ht] at h; cases h
      | cons table more =>
        rw [hf, ht] at h
        obtain ⟨⟨tokens, params⟩, hk, h⟩ := Outcome.bind_eq_ok.mp h
        obtain ⟨bounds, hb, h⟩ := Outcome.bind_eq_ok.mp h
        obtain ⟨sql, hq, h⟩ := Outcome.bind_eq_ok.mp h
        rw [q.bounds?_eq] at hb
        cases hb
        cases h
        cases hs
        refine ⟨tokens, params, by simpa [Query.tokens, hf] using hk, ?_⟩
        rw [RangeQuery.sql_eq_ok ha hq]
        simp [around, frame, hf, ht, written?]

theorem Query.length_frame {q : Query} {countsRows : Bool} {c : Compiled} {s : Statement}
    (h : q.compile countsRows = .ok c) (hs : c.statement = some s) :
    (q.frame countsRows).length = q.conditionCount + 1 := by
  cases q with
  | written q => rfl
  | search q => rfl
  | term q =>
    simp only [compile, TermQuery.compile] at h
    cases hf : q.dataFields with
    | nil => rw [hf] at h; cases h
    | cons field others => simp [frame, conditionCount, hf]
  | range q =>
    simp only [compile, RangeQuery.compile] at h
    split at h
    · cases h
      cases hs
    · split at h
      · cases h
      · cases h
      · next field _ table _ hf ht =>
        simp only [frame, conditionCount, hf, ht, RangeQuery.frameOn]
        cases q.wants .histogram <;> cases q.wantsBounds <;> rfl

end QueryBatch
