import QueryBatch.Proofs.ConditionSlots
import QueryBatch.Proofs.Woven

/-! # Statements are woven

Every statement that is not written by hand, and whose author wrote no condition, is woven text: a
safe name, a number or a placeholder is filled in at each place, a search by distance has a vector,
and a range query has its relation once for each condition in it. So a statement ends where it is
meant to end, whatever names, numbers and vectors are in it.

* `SearchQuery.woven`, `TermQuery.woven`, `RangeQuery.woven`: the statements of the three kinds.
* `Query.woven`: **the statement of a query is woven**.
* `Descriptor.ordersByDistance`: the order of a descriptor is by distance.
* `IsLexicallySafe`: text that holds together wherever it is sent.
* `Descriptor.isLexicallySafe_of_compile`: **the statement of a descriptor is lexically safe**.
-/

namespace QueryBatch

open Text

variable {table : String}

/-! ### Conditions -/

theorem woven_led_blank {l : List String} (hl : ∀ s ∈ l, isQuiet s = true) :
    Woven table false 0 0 (led " " l) := by
  induction l with
  | nil => exact .empty
  | cons s r ih =>
    have hs : Woven table false 0 0 (" " ++ s) :=
      (woven_word table " " (by decide)).fill (hl s List.mem_cons_self)
    exact hs.append (ih fun t ht => hl t (List.mem_cons_of_mem s ht))

theorem mergeConditions_of_blank {written : Option String} (hw : written.bind notBlank? = none)
    (computed : Option String) :
    mergeConditions computed written = computed.filter fun s => !s.isEmpty := by
  unfold mergeConditions
  rw [hw]
  cases computed.filter fun s => !s.isEmpty <;> rfl

theorem eq_joined_of_conditionOf {tokens : List String} {c : String}
    (h : conditionOf tokens = some c) : c = joined " " tokens := by
  unfold conditionOf at h
  split at h
  · cases h
  · cases h
    rfl

theorem mem_of_mem_connect {connective : Connective} {conditions : List (List String)} {s : String}
    (h : s ∈ connect connective conditions) :
    s = connective.operator ∨ ∃ c ∈ conditions, s ∈ c := by
  induction conditions with
  | nil => cases h
  | cons c r ih =>
    cases r with
    | nil => exact .inr ⟨c, List.mem_cons_self, h⟩
    | cons c' r =>
      rw [connect] at h
      · rcases List.mem_append.mp h with h | h
        · exact .inr ⟨c, List.mem_cons_self, h⟩
        · rcases List.mem_cons.mp h with h | h
          · exact .inl h
          · rcases ih h with h | ⟨d, hd, hs⟩
            · exact .inl h
            · exact .inr ⟨d, List.mem_cons_of_mem c hd, hs⟩
      · exact List.cons_ne_nil _ _

theorem isQuiet_of_mem_matchTokens {connective : Connective} {fields patterns : List String}
    (hf : ∀ f ∈ fields, isQuiet f = true) (hp : ∀ p ∈ patterns, isQuiet p = true) :
    ∀ s ∈ matchTokens connective fields patterns, isQuiet s = true := by
  intro s hs
  rcases mem_of_mem_connect hs with rfl | ⟨c, hc, hs⟩
  · cases connective <;> decide
  · obtain ⟨f, hfm, hc⟩ := List.mem_flatMap.mp hc
    obtain ⟨p, hpm, rfl⟩ := List.mem_map.mp hc
    simp only [List.mem_cons, List.not_mem_nil, or_false] at hs
    rcases hs with rfl | rfl | rfl
    · exact hf _ hfm
    · decide
    · exact hp _ hpm

theorem isQuiet_writeWith (b : Bound) (k : Nat) :
    isQuiet (b.writeWith fun _ => Params.placeholder k) = true := by
  cases b with
  | number n => exact n.isQuiet_text
  | text s => exact isQuiet_placeholder k

theorem fills_rangeText {field : String} (hf : isQuiet field = true) {low high : Option String}
    (hl : ∀ s ∈ low, isQuiet s = true) (hh : ∀ s ∈ high, isQuiet s = true) :
    Fills table (rangeText field low high) := by
  intro v r s hs
  have hfield := hs.fill hf
  cases low with
  | none =>
    cases high with
    | none => exact hs.fill (by rw [rangeText]; decide)
    | some t =>
      have hwhole := (hfield.word " < " (by decide)).fill (hh t rfl)
      simpa only [rangeText, String.append_assoc] using hwhole
  | some u =>
    cases high with
    | none =>
      have hwhole := (hfield.word " > " (by decide)).fill (hl u rfl)
      simpa only [rangeText, String.append_assoc] using hwhole
    | some t =>
      have hlow := (hfield.word " between " (by decide)).fill (hl u rfl)
      have hwhole := (hlow.word " and " (by decide)).fill (hh t rfl)
      simpa only [rangeText, String.append_assoc] using hwhole

theorem Query.fills_tokensWith {q : Query} (hn : ∀ s ∈ q.names, isQuiet s = true) :
    Fills table (joined " " (q.tokensWith fun k _ => Params.placeholder k)) := by
  cases q with
  | written q => exact fills_of_isQuiet (by rw [tokensWith, joined_nil]; decide)
  | term q => exact fills_of_isQuiet (by rw [tokensWith, joined_nil]; decide)
  | search q =>
    refine fills_joined (by decide) fun s hs => fills_of_isQuiet ?_
    cases hv : q.value with
    | none => simp [tokensWith, hv] at hs
    | some m =>
      simp only [tokensWith, hv] at hs
      refine isQuiet_of_mem_matchTokens (fun f hf => hn f ?_) (fun p hp => ?_) s hs
      · simp [names, hf]
      · obtain ⟨i, hi, rfl⟩ := List.mem_mapIdx.mp hp
        exact isQuiet_placeholder (i + 1)
  | range q =>
    refine fills_joined (by decide) fun s hs => ?_
    cases hv : q.value with
    | none => simp [tokensWith, hv] at hs
    | some r =>
      cases hf : q.dataFields with
      | nil => simp [tokensWith, hv, hf] at hs
      | cons field others =>
        simp only [tokensWith, hv, hf, List.mem_singleton] at hs
        have hbound : ∀ (b : Option Bound) (k : Nat),
            ∀ s ∈ b.map (Bound.writeWith fun _ => Params.placeholder k), isQuiet s = true := by
          intro b k s hs
          obtain ⟨b, -, rfl⟩ := Option.map_eq_some_iff.mp hs
          exact isQuiet_writeWith b k
        rw [hs]
        exact fills_rangeText (hn field (by simp [names, hf])) (hbound _ _) (hbound _ _)

/-- **The computed condition of a query is woven** behind its keyword. -/
theorem Query.woven_whereClause {q : Query} (hn : ∀ s ∈ q.names, isQuiet s = true)
    (hw : q.written?.bind notBlank? = none) :
    Woven table false 0 0 (whereClause (mergeConditions
      (conditionOf (q.tokensWith fun k _ => Params.placeholder k)) q.written?)) := by
  rw [mergeConditions_of_blank hw]
  cases hc : (conditionOf (q.tokensWith fun k _ => Params.placeholder k)).filter
      fun s => !s.isEmpty with
  | none => exact .empty
  | some c =>
    rw [eq_joined_of_conditionOf (Option.filter_eq_some_iff.mp hc).1]
    exact Query.fills_tokensWith hn (woven_word table " WHERE " (by decide))

/-! ### Statements -/

namespace SearchQuery

variable {q : SearchQuery} (hn : ∀ s ∈ (Query.search q).names, isQuiet s = true)
include hn

theorem woven_opening (countsRows : Bool) : Woven table false 0 0 (q.opening countsRows) := by
  have hinclude : Fills table (joined ", " q.includeFields) :=
    fills_joined (by decide) fun s hs => fills_of_isQuiet (hn s (by simp [Query.names, hs]))
  have htables : Fills table (joined ", " q.tables) :=
    fills_joined (by decide) fun s hs => fills_of_isQuiet (hn s (by simp [Query.names, hs]))
  have hcount : Woven table false 0 0
      (if countsRows then ", COUNT(*) OVER() AS " ++ Column.totalCount else "") :=
    (woven_word table _ (by decide)).ite (countsRows = true)
  have hselected : Fills table (q.selected countsRows) := hinclude.append hcount
  exact htables ((hselected (woven_word table "SELECT " (by decide))).word " FROM " (by decide))

theorem isQuiet_of_mem_sortTokens :
    ∀ s ∈ sortTokens q.sortField q.sortBy q.dataFields, isQuiet s = true := by
  intro s hs
  unfold sortTokens at hs
  cases hf : q.sortField.or q.dataFields.head? with
  | none =>
    rw [hf] at hs
    cases hs
  | some field =>
    simp only [hf, List.mem_cons, List.not_mem_nil, or_false] at hs
    rcases hs with rfl | rfl
    · rcases Option.or_eq_some_iff.mp hf with hf | ⟨-, hf⟩
      · exact hn s (by simp [Query.names, hf])
      · exact hn s (by simp [Query.names, List.mem_of_mem_head? hf])
    · cases q.sortBy <;> decide

theorem woven_order : Woven table false (if q.vector.isSome then 1 else 0) 0
    (if q.orderTokens.isEmpty then "" else " ORDER BY" ++ led " " q.orderTokens) := by
  cases hv : q.vector with
  | none =>
    have horder : q.orderTokens = sortTokens q.sortField q.sortBy q.dataFields := by
      rw [orderTokens, hv]
    have hsorted : Woven table false 0 0 (" ORDER BY" ++ led " " q.orderTokens) := by
      rw [horder]
      exact (woven_word table " ORDER BY" (by decide)).append
        (woven_led_blank (isQuiet_of_mem_sortTokens hn))
    show Woven table false 0 0 _
    split
    · exact .empty
    · exact hsorted
  | some v =>
    have horder : q.orderTokens = [v.field, "<->", vectorLiteral v.vector] := by
      rw [orderTokens, hv]
      rfl
    have hfield : Woven table false 0 0 (" ORDER BY " ++ v.field) :=
      (woven_word table " ORDER BY " (by decide)).fill (hn v.field (by simp [Query.names, hv]))
    have hwhole := (hfield.word " <-> " (by decide)).vector v.vector
    have htext : " ORDER BY" ++ led " " q.orderTokens =
        " ORDER BY " ++ v.field ++ " <-> " ++ vectorLiteral v.vector := by
      rw [horder]
      apply String.ext
      simp [led]
    rw [htext]
    simpa [horder] using hwhole

theorem woven_closing : Woven table false (if q.vector.isSome then 1 else 0) 0 q.closing := by
  have horder : Woven table false (if q.vector.isSome then 1 else 0) 0 _ := woven_order hn
  have hlimit := (horder.word " LIMIT " (by decide)).fill (isQuiet_toString_nat q.size)
  unfold closing
  cases q.offset with
  | none => simpa using hlimit
  | some n =>
    have hoffset : Woven table false 0 0 (" OFFSET " ++ toString n) :=
      (woven_word table " OFFSET " (by decide)).fill (isQuiet_toString_nat n)
    exact hlimit.append hoffset

/-- **A search is woven**, and has a vector if its order is by distance. -/
theorem woven {countsRows : Bool} {condition : Option String}
    (hw : Woven table false 0 0 (whereClause condition)) :
    Woven table false (if q.vector.isSome then 1 else 0) 0
      ((Query.search q).around countsRows condition) := by
  have hwhole := ((woven_opening hn countsRows).append hw).append (woven_closing hn)
  rw [Nat.zero_add] at hwhole
  exact hwhole

end SearchQuery

namespace TermQuery

variable {q : TermQuery} {field : String} (hf : isQuiet field = true)
include hf

theorem woven_opening (ht : ∀ t ∈ q.tables, isQuiet t = true) :
    Woven table false 0 0 (q.opening field) := by
  have htables : Fills table (joined ", " q.tables) :=
    fills_joined (by decide) fun t hm => fills_of_isQuiet (ht t hm)
  have hcolumn := (woven_word table "SELECT " (by decide)).fill hf
  have hcount := (hcolumn.word ", COUNT(*) AS " (by decide)).fill (isQuiet_termCount field)
  exact htables (hcount.word " FROM " (by decide))

theorem woven_closing : Woven table false 0 0 (q.closing field) := by
  have hgroup := (woven_word table " GROUP BY " (by decide)).fill hf
  have hcount := (hgroup.word " ORDER BY " (by decide)).fill (isQuiet_termCount field)
  have horder := hcount.word " DESC" (by decide)
  unfold closing
  cases q.aggregationSize with
  | none => simpa using horder.settle
  | some n =>
    have hlimit : Woven table false 0 0 (" LIMIT " ++ toString n) :=
      (woven_word table " LIMIT " (by decide)).fill (isQuiet_toString_nat n)
    exact horder.append hlimit

omit hf in
/-- **A term query is woven.** -/
theorem woven {countsRows : Bool} (hn : ∀ s ∈ (Query.term q).names, isQuiet s = true)
    (hf : q.dataFields.head? = some field) {condition : Option String}
    (hw : Woven table false 0 0 (whereClause condition)) :
    Woven table false 0 0 ((Query.term q).around countsRows condition) := by
  have hfield : isQuiet field = true :=
    hn field (by simp [Query.names, List.mem_of_mem_head? hf])
  have htables : ∀ t ∈ q.tables, isQuiet t = true := fun t ht => hn t (by simp [Query.names, ht])
  have hframe : (Query.term q).frame countsRows = [q.opening field, q.closing field] := by
    simp [Query.frame, hf]
  rw [Query.around, hframe]
  exact ((woven_opening hfield htables).append hw).append (woven_closing hfield)

end TermQuery

theorem eq_or_eq_of_mem_optional {α : Type} {b b' : Bool} {x y s : α}
    (h : s ∈ (if b then [x] else []) ++ (if b' then [y] else [])) : s = x ∨ s = y := by
  cases b <;> cases b' <;> simp_all

namespace RangeQuery

variable {q : RangeQuery} {field : String} (hf : isQuiet field = true)
include hf

theorem woven_bound {opening name : String} (ho : isWord opening = true) (hn : isWord name = true) :
    Woven table true 0 0 (opening ++ field ++ ") AS " ++ name) :=
  (((woven_word table opening ho).fill hf).word ") AS " (by decide)).word name hn

theorem woven_boundsOpening (ht : isQuiet table = true) :
    Woven table false 0 1 (q.boundsOpening field table) := by
  have hcolumns : Fills table (joined ", " (q.boundColumns field)) := by
    refine fills_joined (by decide) fun s hs => ?_
    rcases eq_or_eq_of_mem_optional hs with rfl | rfl
    · exact (woven_bound hf (by decide) (by decide)).fills
    · exact (woven_bound hf (by decide) (by decide)).fills
  exact ((hcolumns (woven_word table "SELECT " (by decide))).word " FROM " (by decide)).relation ht

theorem woven_bucketNumber (width : Binary64) :
    Woven table true 0 0 (bucketNumber field width) := by
  have hfield := (woven_word table "FLOOR(" (by decide)).fill hf
  exact ((hfield.word " / " (by decide)).fill (isQuiet_widthLiteral width)).word ")" (by decide)

omit hf in
theorem fills_joinedBounds : ∀ s ∈ q.joinedBounds, Fills table s := by
  intro s hs
  rcases eq_or_eq_of_mem_optional hs with rfl | rfl <;> exact fills_of_isQuiet (by decide)

theorem woven_bucketsOpening (ht : isQuiet table = true) (width : Binary64) :
    Woven table false 0 1 (q.bucketsOpening field table width) := by
  have hkey : Woven table true 0 0
      (bucketNumber field width ++ " * " ++ widthLiteral width ++ " AS " ++ Column.bucketKey) :=
    ((((woven_bucketNumber hf width).word " * " (by decide)).fill
      (isQuiet_widthLiteral width)).word " AS " (by decide)).word _ (by decide)
  have hselected : Fills table (joined ", "
      ([bucketNumber field width ++ " * " ++ widthLiteral width ++ " AS " ++ Column.bucketKey,
        "COUNT(*) AS " ++ Column.bucketCount] ++ q.joinedBounds)) := by
    refine fills_joined (by decide) fun s hs => ?_
    rcases List.mem_append.mp hs with hs | hs
    · rcases List.mem_pair.mp hs with rfl | rfl
      · exact hkey.fills
      · exact fills_of_isQuiet (by decide)
    · exact fills_joinedBounds s hs
  have hrelation :=
    ((hselected (woven_word table "SELECT " (by decide))).word " FROM " (by decide)).relation ht
  have hbounds : Woven table false 0 0
      (if q.wantsBounds then ", " ++ Column.boundsRelation ++ " o" else "") :=
    (woven_word table _ (by decide)).ite (q.wantsBounds = true)
  exact hrelation.append hbounds

theorem woven_bucketsClosing (width : Binary64) :
    Woven table true 0 0 (q.bucketsClosing field width) := by
  have hgroups : Fills table (joined ", " (bucketNumber field width :: q.joinedBounds)) := by
    refine fills_joined (by decide) fun s hs => ?_
    rcases List.mem_cons.mp hs with rfl | hs
    · exact (woven_bucketNumber hf width).fills
    · exact fills_joinedBounds s hs
  exact ((hgroups (woven_word table " GROUP BY " (by decide))).word " ORDER BY "
    (by decide)).word _ (by decide)

/-- **A range query is woven**, and has its relation once for each of its conditions. -/
theorem woven (ht : isQuiet table = true) {condition : Option String}
    (hw : Woven table false 0 0 (whereClause condition)) :
    Woven table false 0 (Query.range q).conditionCount
      (joined (whereClause condition) (q.frameOn field table)) := by
  have hbounds : Woven table false 0 1 (q.boundsOpening field table) := woven_boundsOpening hf ht
  have hbuckets : ∀ width, Woven table false 0 1 (q.bucketsOpening field table width) :=
    woven_bucketsOpening hf ht
  have hclosing : ∀ width, Woven table true 0 0 (q.bucketsClosing field width) :=
    woven_bucketsClosing hf
  unfold frameOn Query.conditionCount
  by_cases hh : q.wants .histogram = true
  · by_cases hb : q.wantsBounds = true
    · have hstart : Woven table true 0 0 ("WITH " ++ Column.boundsRelation ++ " AS (") :=
        woven_word table _ (by decide)
      have hend : Woven table true 0 0 ") " := woven_word table _ (by decide)
      simp only [hh, hb, Bool.and_self, if_true, joined_cons_cons, joined_singleton]
      exact (((hstart.append hbounds).append hw).append
        (((hend.append (hbuckets _)).append hw).append (hclosing _))).settle
    · simp only [hh, hb, Bool.and_false, if_true, Bool.false_eq_true, if_false]
      exact (((hbuckets _).append hw).append (hclosing _)).settle
  · simp only [hh, Bool.false_and, Bool.false_eq_true, if_false, joined_cons_cons,
      joined_singleton, String.append_empty]
    exact hbounds.append hw

end RangeQuery

namespace Query

/-- The relations of a query; a statement written by hand names none. -/
def tables : Query → List String
  | .written _ => []
  | .search q => q.tables
  | .term q => q.tables
  | .range q => q.tables

/-- How many vectors stand in the statement of a query. -/
def vectorCount : Query → Nat
  | .search q => if q.vector.isSome then 1 else 0
  | .written _ | .term _ | .range _ => 0

/-- How often its relation stands in double quotes in the statement of a query. -/
def relationCount : Query → Nat
  | .range q => conditionCount (.range q)
  | .written _ | .search _ | .term _ => 0

/-- **The statement of a query is woven**, if it is neither written by hand nor has a condition that
is. -/
theorem woven {q : Query} {countsRows : Bool} {c : Compiled} {s : Statement}
    (h : q.compile countsRows = .ok c) (hs : c.statement = some s)
    (hq : ∀ w, q ≠ .written w) (hw : q.written?.bind notBlank? = none)
    (hn : ∀ s ∈ q.names, isQuiet s = true) (ht : q.tables.head? = some table) :
    Woven table false q.vectorCount q.relationCount s.sql := by
  have hlength := length_frame h hs
  have hwhere : Woven table false 0 0 _ := woven_whereClause hn hw
  rw [(statement_eq h hs).1]
  cases q with
  | written w => exact absurd rfl (hq w)
  | search q => exact SearchQuery.woven hn hwhere
  | term q =>
    cases hf : q.dataFields.head? with
    | none => simp [frame, conditionCount, hf] at hlength
    | some field => exact TermQuery.woven hn hf hwhere
  | range q =>
    obtain ⟨more, htables⟩ : ∃ more, q.tables = table :: more := List.head?_eq_some_iff.mp ht
    have htable : isQuiet table = true := hn table (by simp [names, htables])
    cases hf : q.dataFields with
    | nil => simp [frame, hf] at hlength
    | cons field others =>
      have hfield : isQuiet field = true := hn field (by simp [names, hf])
      have hframe : frame countsRows (.range q) = q.frameOn field table := by
        simp only [frame, hf, htables]
      rw [around, hframe]
      exact RangeQuery.woven hfield htable hwhere

end Query

/-! ### Descriptors -/

namespace Descriptor

/-- **The order of a descriptor is by distance**: it is a search or a suggestion that has such an
order. -/
def ordersByDistance (d : Descriptor) (embedded : Option (List Binary64)) : Bool :=
  (d.kindOrDefault == .search || d.kindOrDefault == .suggestion) &&
    decide (d.HasVectorOrder embedded)

variable {d : Descriptor} {embedded : Option (List Binary64)} {defaultSize : Nat}
  {countsRows : Bool}

theorem isSome_vector {v : Option VectorOrder}
    (hk : d.kindOrDefault = .search ∨ d.kindOrDefault = .suggestion)
    (h : d.resolveVector embedded = .ok v) : v.isSome = d.ordersByDistance embedded := by
  have hkind : (d.kindOrDefault == .search || d.kindOrDefault == .suggestion) = true := by
    rcases hk with hk | hk <;> rw [hk] <;> rfl
  rw [eq_vectorOrder? h, ordersByDistance, hkind, Bool.true_and, Bool.eq_iff_iff,
    isSome_vectorOrder?_iff, decide_eq_true_iff]

theorem ResolvesTo.isQuiet_names {q : Query} (h : d.ResolvesTo embedded defaultSize q)
    (ht : ∀ t ∈ d.tableNames, Identifier.isSafe t = true)
    (hf : ∀ f ∈ d.fieldNames, Identifier.isSafe f = true) : ∀ s ∈ q.names, isQuiet s = true := by
  intro s hs
  refine isQuiet_of_isSafe ?_
  cases h with
  | written => cases hs
  | search _ _ hi ho hv _ =>
    simp only [Query.names, List.mem_append, Option.mem_toList, Option.map_eq_some_iff] at hs
    rcases hs with (((hs | hs) | hs) | hs) | ⟨v, rfl, rfl⟩
    · exact ht s hs
    · exact hi s hs
    · exact hf s hs
    · exact ho s hs
    · exact (resolveVector_eq_ok hv).2
  | term | range =>
    rcases List.mem_append.mp hs with hs | hs
    · exact ht s hs
    · exact hf s hs

/-- **The statement of a descriptor is woven**, if it is neither written by hand nor has a condition
that is. It has a vector if its order is by distance, and a relation in double quotes if it is that
of a range query. -/
theorem exists_woven {r : String × Compiled} {s : Statement} (hd : d.statement? = none)
    (hw : d.condition.bind notBlank? = none)
    (h : d.compile embedded defaultSize countsRows = .ok r) (hs : r.2.statement = some s) :
    ∃ table n, d.tableNames.head? = some table ∧ isQuiet table = true ∧
      Woven table false (if d.ordersByDistance embedded then 1 else 0) n s.sql ∧
      (n ≠ 0 ↔ d.kindOrDefault = .range) := by
  obtain ⟨-, q, hr, hq, hc⟩ := compile_eq_ok h
  obtain ⟨-, hne, ht, hf, -⟩ := resolve_eq_ok hr
  obtain ⟨table, tables, htables⟩ := List.exists_cons_of_ne_nil hne
  have hhead : d.tableNames.head? = some table := by rw [htables, List.head?_cons]
  have hfirst : isQuiet table = true := isQuiet_of_isSafe (ht table (List.mem_of_mem_head? hhead))
  have hnames := hq.isQuiet_names ht hf
  have hparts : (∀ w, q ≠ .written w) ∧ q.written? = d.condition ∧ q.tables = d.tableNames ∧
      q.vectorCount = (if d.ordersByDistance embedded then 1 else 0) ∧
      (q.relationCount ≠ 0 ↔ d.kindOrDefault = .range) := by
    cases hq with
    | written hs' =>
      rw [hd] at hs'
      cases hs'
    | search _ hk _ _ hv _ =>
      refine ⟨nofun, rfl, rfl, ?_, ?_⟩
      · rw [← isSome_vector hk hv]
        rfl
      · rcases hk with hk | hk <;> simp [Query.relationCount, hk]
    | term _ hk _ =>
      refine ⟨nofun, rfl, rfl, ?_, by simp [Query.relationCount, hk]⟩
      simp [Query.vectorCount, ordersByDistance, hk]
    | range _ hk _ =>
      refine ⟨nofun, rfl, rfl, ?_, ?_⟩
      · simp [Query.vectorCount, ordersByDistance, hk]
      · simp only [Query.relationCount, Query.conditionCount, hk, iff_true]
        split <;> decide
  obtain ⟨hwritten, hcondition, hrelations, hvectors, hcount⟩ := hparts
  have hwoven := Query.woven hc hs hwritten (by rw [hcondition]; exact hw) hnames
    (by rw [hrelations]; exact hhead)
  rw [hvectors] at hwoven
  exact ⟨table, q.relationCount, hhead, hfirst, hwoven, hcount⟩

/-- **Text that holds together** wherever it is sent, as the statement of a descriptor: nothing ends
it, escapes from it or starts a comment in it. Its single quotes are those around a vector, its
double quotes those around the relation of a range query. -/
structure IsLexicallySafe (d : Descriptor) (embedded : Option (List Binary64)) (sql : String) :
    Prop where
  semicolon : ';' ∉ sql.toList
  backslash : '\\' ∉ sql.toList
  lineComment : ¬ ['-', '-'] <:+: sql.toList
  blockComment : ¬ ['/', '*'] <:+: sql.toList
  singleQuotes : sql.toList.count '\'' = if d.ordersByDistance embedded then 2 else 0
  doubleQuotes : d.kindOrDefault ≠ .range → '"' ∉ sql.toList
  relation : d.kindOrDefault = .range → ∃ table n, d.tableNames.head? = some table ∧
    '"' ∉ table.toList ∧ n ≠ 0 ∧ HasRelations table n sql

/-- **The statement of a descriptor is lexically safe**, whatever names, numbers and vectors are in
it, if it is neither written by hand nor has a condition that is. -/
theorem isLexicallySafe_of_compile {r : String × Compiled} {s : Statement}
    (hd : d.statement? = none) (hw : d.condition.bind notBlank? = none)
    (h : d.compile embedded defaultSize countsRows = .ok r) (hs : r.2.statement = some s) :
    d.IsLexicallySafe embedded s.sql := by
  obtain ⟨table, n, hhead, hfirst, hwoven, hrelations⟩ := exists_woven hd hw h hs
  have hcomment : ∀ a b, Identifier.startsComment a b = true → ¬ [a, b] <:+: s.sql.toList := by
    intro a b hab hpart
    have hpair : [a, b].IsChain Apart := List.IsChain.infix hwoven.isChain hpart
    have hapart := hpair.rel
    rw [Apart, hab] at hapart
    cases hapart
  exact {
    semicolon := fun hc => absurd (hwoven.within _ hc) (by decide)
    backslash := fun hc => absurd (hwoven.within _ hc) (by decide)
    lineComment := hcomment _ _ (by decide)
    blockComment := hcomment _ _ (by decide)
    singleQuotes := by rw [hwoven.count_quote]; split <;> rfl
    doubleQuotes := fun hk => by
      obtain rfl : n = 0 := by_contra fun hn => hk (hrelations.mp hn)
      exact hwoven.hasRelations.not_mem
    relation := fun hk => ⟨table, n, hhead, not_mem_of_isQuiet hfirst (by decide),
      hrelations.mpr hk, hwoven.hasRelations⟩ }

/-- Names that are made of what starts a comment, and a vector with every kind of number. -/
def nearDashes : Descriptor :=
  { (default : Descriptor) with
    id := some "near", tables := some (.many ["-t", "u/"])
    includeFields := some ["a-", "-", "*", "/"], dataFields := some (.one "b-")
    value := some (.string "x'; --"), vectorField := some "/v-"
    vector := some [.real true (.round 9 4), .nan, .real true .infinite] }

/-- The same for buckets below a placeholder and above a negative number. -/
def dashedBuckets : Descriptor :=
  { (default : Descriptor) with
    id := some "buckets", tables := some (.one "-t/"), kind := some .range
    dataFields := some (.one "-y-"), aggregations := some [.histogram, .max]
    interval := some (.real false (.round 1 100000))
    value := some (.object
      [("end", .string "--"), ("start", .ofBinary64 (.real true (.round 1 1000000)))]) }

def nearDashesSql : Statement :=
  ⟨"SELECT a-, -, *, /, COUNT(*) OVER() AS rs__total_count FROM -t, u/ WHERE b- LIKE $1 " ++
    "ORDER BY /v- <-> '[-2.25,NaN,-inf]' LIMIT 10", [.text "%x'; --%"]⟩

def dashedBucketsSql : Statement :=
  ⟨"WITH OverallStats AS (SELECT MAX(-y-) AS rs__overall_max_year FROM \"-t/\" " ++
    "WHERE -y- between -1e-6 and $1) SELECT FLOOR(-y- / 1e-5) * 1e-5 AS rs__key, " ++
    "COUNT(*) AS rs__doc_count, o.rs__overall_max_year FROM \"-t/\", OverallStats o " ++
    "WHERE -y- between -1e-6 and $1 GROUP BY FLOOR(-y- / 1e-5), o.rs__overall_max_year " ++
    "ORDER BY rs__key", [.text "--"]⟩

/-- Nothing starts a comment in either of them. -/
theorem isLexicallySafe_dashes :
    nearDashes.compile none 10 true = .ok ("near", ⟨some nearDashesSql, .search⟩) ∧
    nearDashes.IsLexicallySafe none nearDashesSql.sql ∧
    dashedBuckets.compile none 10 true = .ok ("buckets", ⟨some dashedBucketsSql,
      .range ⟨some "-y-", none, some Column.greatest, true, false⟩⟩) ∧
    dashedBuckets.IsLexicallySafe none dashedBucketsSql.sql := by
  have hnear : nearDashes.compile none 10 true = .ok ("near", ⟨some nearDashesSql, .search⟩) := by
    decide +kernel
  have hbuckets : dashedBuckets.compile none 10 true = .ok ("buckets", ⟨some dashedBucketsSql,
      .range ⟨some "-y-", none, some Column.greatest, true, false⟩⟩) := by
    decide +kernel
  exact ⟨hnear, isLexicallySafe_of_compile (by decide) (by decide) hnear rfl,
    hbuckets, isLexicallySafe_of_compile (by decide) (by decide) hbuckets rfl⟩

end Descriptor

end QueryBatch
