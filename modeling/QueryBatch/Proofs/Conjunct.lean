import QueryBatch.Proofs.ConditionSlots
import QueryBatch.Proofs.ShortestDecimals

/-! # The written condition beside the computed one

What the author of a query writes behind `where` is put in parentheses beside the computed
condition, which is in parentheses too. It restricts every row as long as the parentheses of the
computed condition are nested, and these are the parentheses in the names of columns: a safe name
may have any.

* `Nested`: nested parentheses. `nested_filter`: other characters do not matter.
* `Query.conditionColumns`: the names of columns in a computed condition, with repetitions.
* `Descriptor.sql_eq_conjunction`: **a statement with both conditions**, in which the computed one
  is nested if and only if the names of columns in it are.
-/

namespace QueryBatch

open Text Outcome

/-! ### Nested parentheses -/

/-- **Nested parentheses**: as many close as open, and up to no place have more closed than
opened. -/
structure Nested (cs : List Char) : Prop where
  balanced : cs.count ')' = cs.count '('
  prefixes : ∀ before, before <+: cs → before.count ')' ≤ before.count '('

def isParenthesis (c : Char) : Bool := c == '(' || c == ')'

def parentheses (s : String) : List Char := s.toList.filter isParenthesis

theorem nested_filter (cs : List Char) : Nested (cs.filter isParenthesis) ↔ Nested cs := by
  have hcount : ∀ (c : Char) (l : List Char), isParenthesis c = true →
      (l.filter isParenthesis).count c = l.count c := fun c l hc => List.count_filter hc
  have hopen : isParenthesis '(' = true := rfl
  have hclose : isParenthesis ')' = true := rfl
  constructor
  · rintro ⟨hb, hp⟩
    rw [hcount _ _ hopen, hcount _ _ hclose] at hb
    refine ⟨hb, fun before h => ?_⟩
    have hle := hp _ (h.filter isParenthesis)
    rwa [hcount _ _ hopen, hcount _ _ hclose] at hle
  · rintro ⟨hb, hp⟩
    refine ⟨by rw [hcount _ _ hopen, hcount _ _ hclose, hb], fun before h => ?_⟩
    obtain ⟨opening, ho, rfl⟩ := List.prefix_filter_iff.mp h
    rw [hcount _ _ hopen, hcount _ _ hclose]
    exact hp opening ho

@[simp] theorem parentheses_append (s t : String) :
    parentheses (s ++ t) = parentheses s ++ parentheses t := by
  simp [parentheses]

theorem parentheses_joined {separator : String} (h : parentheses separator = [])
    (l : List String) : parentheses (joined separator l) = l.flatMap parentheses := by
  induction l with
  | nil => rfl
  | cons s r ih =>
    cases r with
    | nil => simp
    | cons t r =>
      rw [joined_cons_cons, parentheses_append, parentheses_append, ih, h, List.append_nil]
      rfl

theorem parentheses_of_within {s : String} (h : Within isNumeral s) : parentheses s = [] := by
  refine List.filter_eq_nil_iff.mpr fun c hc hp => ?_
  have hn := h c hc
  simp only [isParenthesis, Bool.or_eq_true, beq_iff_eq] at hp
  rcases hp with rfl | rfl <;> revert hn <;> decide

@[simp] theorem parentheses_placeholder (k : Nat) : parentheses (Params.placeholder k) = [] := by
  rw [Params.placeholder, parentheses_append, parentheses_of_within (within_toString_nat k)]
  rfl

/-! ### The parentheses of a computed condition -/

/-- The names of columns in the computed condition of a query: in a search each column once for each
scalar, in a range the first column. -/
def Query.conditionColumns : Query → List String
  | .search q =>
    q.dataFields.flatMap fun f =>
      List.replicate ((q.value.map Match.scalars).getD []).length f
  | .range q => if q.value.isSome then q.dataFields.take 1 else []
  | .written _ | .term _ => []

theorem flatMap_parentheses_matchTokens (connective : Connective) (fields : List String)
    {patterns : List String} (hp : ∀ p ∈ patterns, parentheses p = []) :
    (matchTokens connective fields patterns).flatMap parentheses =
      (fields.flatMap fun f => List.replicate patterns.length f).flatMap parentheses := by
  have ho : parentheses connective.operator = [] := by cases connective <;> rfl
  rw [flatMap_matchTokens ho rfl, List.flatMap_assoc]
  refine List.flatMap_congr fun f _ => ?_
  induction patterns with
  | nil => rfl
  | cons p r ih =>
    rw [List.flatMap_cons, ih fun p hr => hp p (List.mem_cons_of_mem _ hr),
      hp p List.mem_cons_self, List.append_nil, List.length_cons, List.replicate_succ,
      List.flatMap_cons]

theorem parentheses_rangeText (field : String) {low high : Option String}
    (hl : ∀ s ∈ low, parentheses s = []) (hh : ∀ s ∈ high, parentheses s = [])
    (hsome : low.isSome ∨ high.isSome) :
    parentheses (rangeText field low high) = parentheses field := by
  have hbetween : parentheses " between " = [] := rfl
  have hand : parentheses " and " = [] := rfl
  have habove : parentheses " > " = [] := rfl
  have hbelow : parentheses " < " = [] := rfl
  cases low <;> cases high <;> simp_all [rangeText]

theorem parentheses_writeWith (b : Bound) {slot : Scalar → String}
    (h : ∀ s, parentheses (slot s) = []) : parentheses (b.writeWith slot) = [] := by
  cases b with
  | number n => exact parentheses_of_within n.within_text
  | text s => exact h _

namespace Descriptor

variable {d : Descriptor} {embedded : Option (List Binary64)} {defaultSize : Nat}

/-- **The parentheses of a computed condition** are those of the names of columns in it, if there
are none in its slots. -/
theorem ResolvesTo.flatMap_parentheses_tokensWith {q : Query}
    (h : d.ResolvesTo embedded defaultSize q) (hv : q.isFiltered = true)
    {slot : Nat → Scalar → String} (hslot : ∀ k s, parentheses (slot k s) = []) :
    (q.tokensWith slot).flatMap parentheses = q.conditionColumns.flatMap parentheses := by
  cases h with
  | written | term => cases hv
  | @search _ _ value _ _ _ _ _ hm =>
    obtain ⟨m, rfl⟩ := Option.isSome_iff_exists.mp hv
    have hpatterns : ∀ p ∈ (m.scalars.map pattern).mapIdx fun i s => slot (i + 1) s,
        parentheses p = [] := by
      intro p hp
      obtain ⟨i, _, rfl⟩ := List.mem_mapIdx.mp hp
      exact hslot _ _
    simp only [Query.tokensWith]
    rw [flatMap_parentheses_matchTokens _ _ hpatterns, List.length_mapIdx,
      List.length_map]
    rfl
  | @range value _ _ hm =>
    obtain ⟨r, rfl⟩ := Option.isSome_iff_exists.mp hv
    cases hf : d.fieldNames with
    | nil => simp [Query.tokensWith, Query.conditionColumns]
    | cons field others =>
      have hlow : ∀ s ∈ r.start.map (Bound.writeWith (slot 1)), parentheses s = [] := by
        simp [parentheses_writeWith, hslot]
      have hhigh : ∀ s ∈ r.stop.map (Bound.writeWith (slot r.stopSlot)), parentheses s = [] := by
        simp [parentheses_writeWith, hslot]
      have htext := parentheses_rangeText field hlow hhigh (by simpa using Range.hasBound hm)
      simp [Query.tokensWith, Query.conditionColumns, htext]

/-- **A statement with both conditions.** If the value of a descriptor selects rows and something is
written behind its `where`, then both conditions stand in parentheses wherever its statement has a
condition. The computed one is nested if and only if the names of columns in it are. -/
theorem sql_eq_conjunction {n : NamedQuery} {countsRows : Bool} {c : Compiled} {s : Statement}
    {w : String} (hr : d.resolve embedded defaultSize = .ok n)
    (hc : n.query.compile countsRows = .ok c) (hs : c.statement = some s)
    (hv : n.query.isFiltered = true) (hw : d.condition.bind notBlank? = some w) :
    ∃ computed, conditionOf (n.query.tokensWith fun k _ => Params.placeholder k) = some computed ∧
      s.sql = joined (" WHERE (" ++ computed ++ ") AND (" ++ w ++ ")") (n.query.frame countsRows) ∧
      (n.query.frame countsRows).length = n.query.conditionCount + 1 ∧
      (Nested computed.toList ↔ Nested (n.query.conditionColumns.flatMap String.toList)) := by
  obtain ⟨-, -, -, -, hq⟩ := resolve_eq_ok hr
  obtain ⟨tokens, params, ht, -⟩ := Query.compile_eq_ok hc hs
  have hne := hq.joined_tokensWith_ne_empty ht hv fun k _ => Params.placeholder k
  have hcomputed := conditionOf_eq_some hne
  have hp := hq.flatMap_parentheses_tokensWith hv fun k _ => parentheses_placeholder k
  have hblank : parentheses " " = [] := rfl
  rw [← parentheses_joined hblank] at hp
  generalize joined " " _ = computed at hne hcomputed hp
  have hwritten : n.query.written? = d.condition := by
    generalize n.query = q at hq hv
    cases hq with
    | written | term => cases hv
    | search | range => rfl
  refine ⟨computed, hcomputed, ?_, Query.length_frame hc hs, ?_⟩
  · have hmerge : mergeConditions (some computed) d.condition =
        some ("(" ++ computed ++ ") AND (" ++ w ++ ")") := by
      rw [mergeConditions_some hne, hw]
      rfl
    have hwhere : whereClause (some ("(" ++ computed ++ ") AND (" ++ w ++ ")")) =
        " WHERE (" ++ computed ++ ") AND (" ++ w ++ ")" := by
      apply String.ext
      simp [whereClause]
    rw [(Query.statement_eq hc hs).1, hcomputed, hwritten, hmerge, Query.around, hwhere]
  · rw [← nested_filter computed.toList, ← nested_filter (List.flatMap _ _), List.filter_flatMap]
    exact Eq.to_iff (congrArg Nested hp)

/-- The text around both conditions tells which the computed one is. -/
theorem computed_injective {computed computed' w opening closing : String}
    (h : joined (" WHERE (" ++ computed ++ ") AND (" ++ w ++ ")") [opening, closing] =
      joined (" WHERE (" ++ computed' ++ ") AND (" ++ w ++ ")") [opening, closing]) :
    computed = computed' := by
  simpa [String.append_assoc] using h

/-- A search for a text with a condition of its author, in the column of some name. -/
def searchIn (field : String) : Descriptor :=
  { (default : Descriptor) with
    id := some "q", tables := some (.one "books"), dataFields := some (.one field)
    value := some (.string "dune"), condition := some " tenant = 7 ", sortField := some "year" }

def resolvedSearchIn (field : String) : NamedQuery :=
  ⟨"q", .search {
    tables := ["books"], includeFields := ["*"], dataFields := [field]
    value := some (.single (.text "dune")), connective := .or, sortField := some "year"
    sortBy := .asc, vector := none, condition := some " tenant = 7 ", size := 10, offset := none }⟩

def statementIn (field : String) : Statement :=
  ⟨"SELECT * FROM books WHERE (" ++ field ++
    " LIKE $1) AND (tenant = 7) ORDER BY year asc LIMIT 10", [.text "%dune%"]⟩

theorem sql_eq_conjunction_lower :
    (resolvedSearchIn "lower(title)").query.isFiltered = true ∧
    ∃ computed, (statementIn "lower(title)").sql =
        joined (" WHERE (" ++ computed ++ ") AND (" ++ "tenant = 7" ++ ")")
          ["SELECT * FROM books", " ORDER BY year asc LIMIT 10"] ∧
      (Nested computed.toList ↔ Nested "lower(title)".toList) := by
  have hr : (searchIn "lower(title)").resolve none 10 = .ok (resolvedSearchIn "lower(title)") := by
    decide +kernel
  have hc : (resolvedSearchIn "lower(title)").query.compile false =
      .ok ⟨some (statementIn "lower(title)"), .search⟩ := by
    decide +kernel
  obtain ⟨computed, -, hsql, -, hn⟩ := sql_eq_conjunction hr hc rfl rfl
    (show _ = some "tenant = 7" by decide +kernel)
  exact ⟨rfl, computed, hsql, hn⟩

/-- **A safe name that crosses the parentheses.** In no reading is the written condition of this
search beside a nested one: its statement selects every row. -/
theorem not_nested_of_crossed_parentheses :
    Identifier.isSafe "1=1)OR(title" = true ∧
    (searchIn "1=1)OR(title").resolve none 10 = .ok (resolvedSearchIn "1=1)OR(title") ∧
    (resolvedSearchIn "1=1)OR(title").query.compile false =
      .ok ⟨some (statementIn "1=1)OR(title"), .search⟩ ∧
    ¬ ∃ computed, (statementIn "1=1)OR(title").sql =
        joined (" WHERE (" ++ computed ++ ") AND (" ++ "tenant = 7" ++ ")")
          ((resolvedSearchIn "1=1)OR(title").query.frame false) ∧
      Nested computed.toList := by
  refine ⟨by decide, by decide +kernel, by decide +kernel, ?_⟩
  rintro ⟨computed, hsql, hn⟩
  have hframe : (resolvedSearchIn "1=1)OR(title").query.frame false =
      ["SELECT * FROM books", " ORDER BY year asc LIMIT 10"] := by
    decide +kernel
  rw [hframe] at hsql
  have hcrossed : (statementIn "1=1)OR(title").sql =
      joined (" WHERE (" ++ "1=1)OR(title LIKE $1" ++ ") AND (" ++ "tenant = 7" ++ ")")
        ["SELECT * FROM books", " ORDER BY year asc LIMIT 10"] := by
    decide
  have hcomputed := computed_injective (hsql.symm.trans hcrossed)
  have hle := hn.prefixes "1=1)".toList (by rw [hcomputed]; decide)
  revert hle
  decide

end Descriptor

end QueryBatch
