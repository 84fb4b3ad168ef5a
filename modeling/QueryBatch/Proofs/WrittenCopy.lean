import QueryBatch.Proofs.RangeAnswer
import QueryBatch.Proofs.TermColumns

/-! # Statements copied by hand

A descriptor that is compiled says how its rows are reshaped by what it asks for; a statement that
is written by hand has nothing but its rows to say it. If the statement of the one is copied into
the other, under the same name and with the same relations and columns, both give the same entry. A
term statement and a search do so for all rows. A range statement does so for rows of which the
first has the columns that the statement selects, and not if there are no rows at all.

* `Column.Selects`: the columns that a statement selects, read off its list of columns.
* `Column.selected`, `Descriptor.selectedColumns`: those of a range statement, by what is asked
  for.
* `Descriptor.IsCopy`: a descriptor with the statement of another one, written by hand.
* `RangeQuery.selects_of_sql`: **what a range statement selects** is what is asked for.
* `Descriptor.reshapes_alike`: **a copy is reshaped like what it is a copy of**.
* `Descriptor.entry_ne_of_no_rows`: without rows the two entries of a range are different.
-/

namespace QueryBatch

open Outcome

/-! ### Selected columns -/

namespace Column

/-- The name of one item of a list of columns, which is its last word or the end of it. -/
def nameOfItem (item : String) : String := nameOf (item.toList.rtakeWhile (· != ' '))

/-- The relations that stand in front of a statement. -/
inductive IsOpening : String → Prop
  | none : IsOpening ""
  | bounds (sql : String) : IsOpening ("WITH " ++ boundsRelation ++ " AS (" ++ sql ++ ") ")

/-- **A statement selects columns** if these are the names of the items between its `SELECT` and its
`FROM`. -/
def Selects (columns : List String) (sql : String) : Prop :=
  ∃ opening items rest, IsOpening opening ∧
    sql = opening ++ "SELECT " ++ Text.joined ", " items ++ " FROM " ++ rest ∧
    items.map nameOfItem = columns

theorem selects_of_eq {opening sql : String} {items : List String} (relation rest : String)
    (ho : IsOpening opening)
    (h : sql = opening ++ ("SELECT " ++ Text.joined ", " items ++ " FROM " ++ relation) ++ rest) :
    Selects (items.map nameOfItem) sql :=
  ⟨opening, items, relation ++ rest, ho, by rw [h]; simp only [String.append_assoc], rfl⟩

theorem nameOfItem_append {name separator : String} (h : ' ' ∉ name.toList)
    (hs : separator.toList.getLast? = some ' ') (expression : String) :
    nameOfItem (expression ++ separator ++ name) = nameOf name.toList := by
  obtain ⟨before, hbefore⟩ := List.getLast?_eq_some_iff.mp hs
  have hall : ∀ c ∈ name.toList.reverse, (c != ' ') = true := by
    intro c hc
    rw [bne_iff_ne]
    rintro rfl
    exact h (List.mem_reverse.mp hc)
  rw [nameOfItem, String.toList_append, String.toList_append, hbefore, List.rtakeWhile,
    List.reverse_append, List.takeWhile_append_of_pos hall]
  simp

/-- The columns of a range statement. -/
def ofRange : List String := [least, greatest, bucketKey, bucketCount]

theorem all_ofRange : ∀ name ∈ ofRange,
    (name.toList.all fun c => c != ' ' && c != '.' && !c.isUpper) = true := by
  decide +kernel

theorem nameOfItem_ofRange {name separator : String} (h : name ∈ ofRange)
    (hs : separator.toList.getLast? = some ' ') (expression : String) :
    nameOfItem (expression ++ separator ++ name) = name := by
  have hall : ∀ c ∈ name.toList, c ≠ ' ' ∧ c ≠ '.' ∧ c.isUpper = false := by
    simpa [and_assoc] using all_ofRange name h
  have hname : nameOf name.toList = name :=
    nameOf_eq_self_iff.mpr ⟨fun hc => (hall _ hc).2.1 rfl, fun c hc => (hall c hc).2.2⟩
  exact (nameOfItem_append (fun hc => (hall _ hc).1 rfl) hs expression).trans hname

/-- **The names of the columns that a range statement selects**, by what is wanted of it. -/
def selected (wants : Aggregation → Bool) : List String :=
  (if wants .histogram then [bucketKey, bucketCount] else []) ++
    ((if wants .min then [least] else []) ++ (if wants .max then [greatest] else []))

theorem mem_selected (wants : Aggregation → Bool) :
    decide (bucketKey ∈ selected wants) = wants .histogram ∧
    decide (least ∈ selected wants) = wants .min ∧
    decide (greatest ∈ selected wants) = wants .max := by
  cases h : wants .histogram <;> cases h' : wants .min <;> cases h'' : wants .max <;>
    simp [selected, h, h', h'', least, greatest, bucketKey, bucketCount]

end Column

namespace RangeQuery

variable {q : RangeQuery} {field table : String}

theorem map_nameOfItem_boundColumns (q : RangeQuery) (field : String) :
    (q.boundColumns field).map Column.nameOfItem =
      (if q.wants .min then [Column.least] else []) ++
        (if q.wants .max then [Column.greatest] else []) := by
  have hleast : Column.nameOfItem ("MIN(" ++ field ++ ") AS " ++ Column.least) = Column.least :=
    Column.nameOfItem_ofRange (by simp [Column.ofRange]) (by decide +kernel) _
  have hgreatest : Column.nameOfItem ("MAX(" ++ field ++ ") AS " ++ Column.greatest) =
      Column.greatest :=
    Column.nameOfItem_ofRange (by simp [Column.ofRange]) (by decide +kernel) _
  cases h : q.wants .min <;> cases h' : q.wants .max <;>
    simp [boundColumns, h, h', hleast, hgreatest]

theorem map_nameOfItem_joinedBounds (q : RangeQuery) :
    q.joinedBounds.map Column.nameOfItem =
      (if q.wants .min then [Column.least] else []) ++
        (if q.wants .max then [Column.greatest] else []) := by
  have hleast : Column.nameOfItem ("o." ++ Column.least) = Column.least := by decide +kernel
  have hgreatest : Column.nameOfItem ("o." ++ Column.greatest) = Column.greatest := by
    decide +kernel
  cases h : q.wants .min <;> cases h' : q.wants .max <;>
    simp [joinedBounds, h, h', hleast, hgreatest]

theorem map_nameOfItem_buckets (q : RangeQuery) (field : String) (width : Binary64) :
    ([bucketNumber field width ++ " * " ++ widthLiteral width ++ " AS " ++ Column.bucketKey,
      "COUNT(*) AS " ++ Column.bucketCount] ++ q.joinedBounds).map Column.nameOfItem =
      [Column.bucketKey, Column.bucketCount] ++
        ((if q.wants .min then [Column.least] else []) ++
          (if q.wants .max then [Column.greatest] else [])) := by
  have hkey : Column.nameOfItem (bucketNumber field width ++ " * " ++ widthLiteral width ++
      " AS " ++ Column.bucketKey) = Column.bucketKey :=
    Column.nameOfItem_ofRange (by simp [Column.ofRange]) (by decide +kernel) _
  have hcount : Column.nameOfItem ("COUNT(*) AS " ++ Column.bucketCount) = Column.bucketCount := by
    decide +kernel
  rw [List.map_append, q.map_nameOfItem_joinedBounds, List.map_cons, List.map_singleton, hkey,
    hcount]

/-- **A range statement selects** the buckets and the bounds that are asked for. -/
theorem selects_of_sql {condition : Option String} {sql : String} (ha : q.aggregations ≠ [])
    (h : q.sql field table condition (q.boundsOn field table condition) = .ok sql) :
    Column.Selects (Column.selected q.wants) sql := by
  rw [sql_eq_ok ha h, frameOn]
  by_cases hh : q.wants .histogram = true
  · have hnames := q.map_nameOfItem_buckets field (q.width?.getD .one)
    rw [Column.selected, if_pos hh, if_pos hh, ← hnames]
    cases hb : q.wantsBounds with
    | true =>
      refine Column.selects_of_eq (quotedTable table) (", " ++ Column.boundsRelation ++ " o" ++
        whereClause condition ++ q.bucketsClosing field (q.width?.getD .one))
        (.bounds (q.boundsOpening field table ++ whereClause condition)) ?_
      simp only [if_true, Text.joined_cons_cons, Text.joined_singleton, bucketsOpening, hb,
        String.append_assoc]
    | false =>
      refine Column.selects_of_eq (quotedTable table)
        (whereClause condition ++ q.bucketsClosing field (q.width?.getD .one)) .none ?_
      simp only [Bool.false_eq_true, if_false, Text.joined_cons_cons, Text.joined_singleton,
        bucketsOpening, hb, String.append_empty, String.empty_append, String.append_assoc]
  · have hnames := q.map_nameOfItem_boundColumns field
    rw [Column.selected, if_neg hh, if_neg hh, List.nil_append, ← hnames]
    refine Column.selects_of_eq (quotedTable table) (whereClause condition) .none ?_
    simp only [Text.joined_cons_cons, Text.joined_singleton, boundsOpening, String.append_empty,
      String.empty_append]

theorem selectedColumn?_eq {column : String} {row : Row} {rest : List Row} {wanted : Bool}
    (h : Keyed.contains column row = wanted) :
    selectedColumn? column (row :: rest) = if wanted then some column else none := by
  rw [selectedColumn?, List.head?_cons, Option.map_some, Option.getD_some, h]

/-- **Rows that have what was asked for** are reshaped as if it had been found out from them. -/
theorem entry_shapeOn {row : Row} (rest : List Row) (took : Json)
    (hkey : Keyed.contains Column.bucketKey row = q.wants .histogram)
    (hleast : Keyed.contains Column.least row = q.wants .min)
    (hgreatest : Keyed.contains Column.greatest row = q.wants .max) :
    (Shape.range (q.shapeOn field)).entry took (row :: rest) =
      (Shape.written .range (some field)).entry took (row :: rest) := by
  simp only [Shape.entry, writtenRangeEntry, selectedColumn?_eq hkey, selectedColumn?_eq hleast,
    selectedColumn?_eq hgreatest, shapeOn, Bool.false_eq_true, if_false, Option.isSome_some,
    Bool.true_and]
  cases q.wants .histogram <;> rfl

end RangeQuery

/-! ### Copies -/

namespace Descriptor

/-- The names of the columns that a range descriptor selects, by what it asks for. -/
def selectedColumns (d : Descriptor) : List String :=
  Column.selected (d.aggregations.getD []).contains

/-- **A copy** of a descriptor: it has the same name, relations and columns and is of the same kind,
and a statement is written in it by hand. Nothing is said of its other parts. -/
structure IsCopy (copy d : Descriptor) (sql : String) : Prop where
  id : copy.id = d.id
  tables : copy.tables = d.tables
  dataFields : copy.dataFields = d.dataFields
  kind : copy.kindOrDefault = d.kindOrDefault
  handWritten : copy.handWritten = some ⟨some sql⟩

/-- The first row has, of the three columns that are looked for, those of a list. -/
def HasSelected (columns : List String) (row : Row) : Prop :=
  ∀ column ∈ [Column.least, Column.greatest, Column.bucketKey],
    Keyed.contains column row = true ↔ column ∈ columns

instance (columns : List String) (row : Row) : Decidable (HasSelected columns row) :=
  inferInstanceAs (Decidable (∀ column ∈ [Column.least, Column.greatest, Column.bucketKey],
    Keyed.contains column row = true ↔ column ∈ columns))

variable {d copy : Descriptor} {embedded : Option (List Binary64)} {defaultSize : Nat}
  {countsRows : Bool} {r : String × Compiled} {s : Statement}

theorem selectedColumns_eq {q : RangeQuery} (h : q.aggregations = d.aggregations.getD []) :
    Column.selected q.wants = d.selectedColumns := by
  rw [selectedColumns, ← h]
  rfl

theorem statement?_of_select {before rest : String}
    (h : d.handWritten = some ⟨some (before ++ "SELECT " ++ rest)⟩) :
    d.statement? = some (before ++ "SELECT " ++ rest) := by
  have hletter : 'S' ∈ (before ++ "SELECT " ++ rest).toList := by simp
  have hblank : (before ++ "SELECT " ++ rest).toList.all Text.isBlank = false :=
    List.all_eq_false.mpr ⟨'S', hletter, by decide⟩
  rw [statement?, h, Option.bind_some, Option.filter_some, hblank]
  rfl

/-- **A copy compiles to the statement that is written in it**, whatever its other parts. -/
theorem IsCopy.compile_eq {before rest : String} (h : copy.IsCopy d (before ++ "SELECT " ++ rest))
    (hd : d.compile embedded defaultSize countsRows = .ok r)
    (embedded' : Option (List Binary64)) (defaultSize' : Nat) (countsRows' : Bool) :
    copy.compile embedded' defaultSize' countsRows' =
      .ok (d.name, ⟨some ⟨before ++ "SELECT " ++ rest, []⟩,
        .written d.kindOrDefault d.fieldNames.head?⟩) := by
  obtain ⟨-, q, hr, -⟩ := compile_eq_ok hd
  obtain ⟨-, hne, htables, hfields, -⟩ := resolve_eq_ok hr
  have hnames : copy.tableNames = d.tableNames := by rw [tableNames, tableNames, h.tables]
  have hcolumns : copy.fieldNames = d.fieldNames := by rw [fieldNames, fieldNames, h.dataFields]
  have hname : copy.name = d.name := by rw [name, name, h.id]
  have hresolve : copy.resolveTables = .ok d.tableNames :=
    resolveTables_eq_ok_iff.mpr (by rw [hnames]; exact ⟨rfl, hne, htables⟩)
  have hcheck : Identifier.checkAll d.fieldNames = .ok () :=
    Identifier.checkAll_eq_ok_iff.mpr hfields
  unfold compile resolve
  simp only [hresolve, hcolumns, hcheck, statement?_of_select h.handWritten, hname, h.kind, bind,
    Except.bind]
  rfl

/-! ### What is copied -/

/-- **A range descriptor with a statement**: its shape and its columns are those of what it asks
for. -/
theorem exists_shapeOn_of_compile (hs : d.statement? = none) (hk : d.kindOrDefault = .range)
    (h : d.compile embedded defaultSize countsRows = .ok r) (hc : r.2.statement = some s) :
    ∃ (field : String) (q : RangeQuery), d.fieldNames.head? = some field ∧
      q.aggregations = d.aggregations.getD [] ∧ q.aggregations ≠ [] ∧
      r.2.shape = .range (q.shapeOn field) ∧
      Column.Selects (Column.selected q.wants) s.sql := by
  obtain ⟨-, value, -, hq⟩ := exists_range_of_compile hk hs h
  generalize hquery : ({
    tables := d.tableNames, dataFields := d.fieldNames, value
    aggregations := d.aggregations.getD [], interval := d.interval
    condition := d.condition } : RangeQuery) = q at hq
  have hne : q.aggregations ≠ [] := by
    intro hnil
    rw [RangeQuery.compile, hnil] at hq
    cases Except.ok.inj hq ▸ hc
  obtain ⟨field, table, hfield, -, hon⟩ := (RangeQuery.compile_eq_ok_iff hne).mp hq
  obtain ⟨tokens, params, sql, -, hsql, hr⟩ := RangeQuery.compileOn_eq_ok_iff.mp hon
  rw [hr] at hc ⊢
  cases hc
  refine ⟨field, q, ?_, ?_, hne, rfl, RangeQuery.selects_of_sql hne hsql⟩
  · rw [← hfield, ← hquery]
  · rw [← hquery]

theorem exists_search_of_compile (hs : d.statement? = none)
    (hk : d.kindOrDefault = .search ∨ d.kindOrDefault = .suggestion)
    (h : d.compile embedded defaultSize countsRows = .ok r) (hc : r.2.statement = some s) :
    r.2.shape = .search ∧ ∃ rest, s.sql = "" ++ "SELECT " ++ rest := by
  obtain ⟨-, q, -, hq, hr⟩ := compile_eq_ok h
  cases hq with
  | written hw =>
    rw [hs] at hw
    cases hw
  | term _ hk' | range _ hk' =>
    rw [hk'] at hk
    rcases hk with hk | hk <;> cases hk
  | search =>
    obtain ⟨tokens, params, -, rfl⟩ := Query.compile_eq_ok hr hc
    obtain ⟨_, -, hshape⟩ := bind_eq_ok.mp hr
    refine ⟨by rw [← Except.ok.inj hshape], ?_⟩
    rw [Query.around, Query.frame, Text.joined_cons_cons, SearchQuery.opening]
    exact ⟨_, by simp only [String.empty_append, String.append_assoc]; rfl⟩

theorem exists_select_of_compile (hs : d.statement? = none)
    (h : d.compile embedded defaultSize countsRows = .ok r) (hc : r.2.statement = some s) :
    ∃ before rest, s.sql = before ++ "SELECT " ++ rest := by
  cases hk : d.kindOrDefault with
  | range =>
    obtain ⟨-, -, -, -, -, -, opening, items, rest, -, hsql, -⟩ :=
      exists_shapeOn_of_compile hs hk h hc
    exact ⟨opening, Text.joined ", " items ++ " FROM " ++ rest, by
      rw [hsql]; simp only [String.append_assoc]⟩
  | term =>
    obtain ⟨field, q, -, hr⟩ := exists_term_of_compile hs hk h
    rw [hr] at hc
    cases hc
    rw [q.joined_words, TermQuery.opening]
    exact ⟨"", _, by simp only [String.empty_append, String.append_assoc]; rfl⟩
  | search =>
    obtain ⟨-, rest, hsql⟩ := exists_search_of_compile hs (.inl hk) h hc
    exact ⟨"", rest, hsql⟩
  | suggestion =>
    obtain ⟨-, rest, hsql⟩ := exists_search_of_compile hs (.inr hk) h hc
    exact ⟨"", rest, hsql⟩

/-! ### Entries -/

theorem entry_of_range (hs : d.statement? = none) (hk : d.kindOrDefault = .range)
    (h : d.compile embedded defaultSize countsRows = .ok r) (hc : r.2.statement = some s)
    {row : Row} (hrow : HasSelected d.selectedColumns row) (rest : List Row) (took : Json) :
    r.2.shape.entry took (row :: rest) =
      (Shape.written .range d.fieldNames.head?).entry took (row :: rest) := by
  obtain ⟨field, q, hfield, hasked, -, hshape, -⟩ := exists_shapeOn_of_compile hs hk h hc
  rw [← selectedColumns_eq hasked] at hrow
  have hcontains : ∀ column ∈ [Column.least, Column.greatest, Column.bucketKey],
      Keyed.contains column row = decide (column ∈ Column.selected q.wants) := by
    intro column hcolumn
    rw [Bool.eq_iff_iff, hrow column hcolumn, decide_eq_true_iff]
  obtain ⟨hkey, hleast, hgreatest⟩ := Column.mem_selected q.wants
  rw [hshape, hfield]
  exact RangeQuery.entry_shapeOn rest took ((hcontains _ (by simp)).trans hkey)
    ((hcontains _ (by simp)).trans hleast) ((hcontains _ (by simp)).trans hgreatest)

theorem entry_of_not_range (hs : d.statement? = none) (hk : d.kindOrDefault ≠ .range)
    (h : d.compile embedded defaultSize countsRows = .ok r) (hc : r.2.statement = some s)
    (rows : List Row) (took : Json) :
    r.2.shape.entry took rows =
      (Shape.written d.kindOrDefault d.fieldNames.head?).entry took rows := by
  cases hkind : d.kindOrDefault with
  | range => exact absurd hkind hk
  | term =>
    obtain ⟨field, q, hfield, hr⟩ := exists_term_of_compile hs hkind h
    rw [hr, hfield]
    rfl
  | search =>
    rw [(exists_search_of_compile hs (.inl hkind) h hc).1]
    cases d.fieldNames.head? <;> rfl
  | suggestion =>
    rw [(exists_search_of_compile hs (.inr hkind) h hc).1]
    cases d.fieldNames.head? <;> rfl

/-- **A copy is reshaped like what it is a copy of.** Of a descriptor that has no statement written
by hand and compiles to one without parameters, the copy compiles to the same statement under the
same name. Of a range, both give the same entry for all rows of which the first has, of the three
columns that are looked for, exactly those that the statement selects; of a term query, a search or
a suggestion, for all rows. -/
theorem reshapes_alike (hs : d.statement? = none)
    (h : d.compile embedded defaultSize countsRows = .ok r) (hc : r.2.statement = some s)
    (hp : s.params = []) (hcopy : copy.IsCopy d s.sql) :
    ∃ shape,
      (∀ embedded' defaultSize' countsRows',
        copy.compile embedded' defaultSize' countsRows' = .ok (r.1, ⟨some s, shape⟩)) ∧
      (d.kindOrDefault = .range → Column.Selects d.selectedColumns s.sql ∧
        ∀ took row rest, HasSelected d.selectedColumns row →
          Response.entry ⟨r.1, .ok (row :: rest), took, r.2.shape⟩ =
            Response.entry ⟨r.1, .ok (row :: rest), took, shape⟩) ∧
      (d.kindOrDefault ≠ .range → ∀ took rows,
        Response.entry ⟨r.1, .ok rows, took, r.2.shape⟩ =
          Response.entry ⟨r.1, .ok rows, took, shape⟩) := by
  have hname : r.1 = d.name := (compile_eq_ok h).1
  refine ⟨.written d.kindOrDefault d.fieldNames.head?, ?_, fun hk => ⟨?_, ?_⟩, ?_⟩
  · intro embedded' defaultSize' countsRows'
    obtain ⟨before, rest, hsql⟩ := exists_select_of_compile hs h hc
    obtain ⟨sql, params⟩ := s
    subst hp hsql
    rw [hname]
    exact hcopy.compile_eq h embedded' defaultSize' countsRows'
  · obtain ⟨-, q, -, hasked, -, -, hselects⟩ := exists_shapeOn_of_compile hs hk h hc
    rwa [selectedColumns_eq hasked] at hselects
  · intro took row rest hrow
    rw [hk]
    exact entry_of_range hs hk h hc hrow rest (encodeTook took)
  · intro hk took rows
    exact entry_of_not_range hs hk h hc rows (encodeTook took)

/-- The books that came out after 1980, by decade. -/
def recentDecades : Descriptor :=
  { (default : Descriptor) with
    id := some "decades", tables := some (.one "books"), kind := some .range
    dataFields := some (.one "year"), aggregations := some [.histogram]
    interval := some (.ofInt 10), value := some (.object [("start", .ofInt 1980)]) }

/-- The statement of `recentDecades`, which has no parameters. -/
def recentDecadesSql : String :=
  "SELECT FLOOR(year / 10.0) * 10.0 AS rs__key, COUNT(*) AS rs__doc_count FROM \"books\" " ++
    "WHERE year > 1980 GROUP BY FLOOR(year / 10.0) ORDER BY rs__key"

/-- A copy of `recentDecades` that asks for nothing itself. -/
def copiedDecades : Descriptor :=
  { (default : Descriptor) with
    id := some "decades", tables := some (.one "books"), kind := some .range
    dataFields := some (.one "year"), handWritten := some ⟨some recentDecadesSql⟩ }

def recentRow : Row := [("rs__doc_count", .ofNat 3), ("rs__key", .ofNat 1980)]

/-- The copy compiles to the statement of the original, and both make the same of its rows. -/
theorem reshapes_alike_decades : ∃ shape shape',
    recentDecades.compile none 10 false = .ok ("decades", ⟨some ⟨recentDecadesSql, []⟩, shape⟩) ∧
    copiedDecades.compile none 10 true = .ok ("decades", ⟨some ⟨recentDecadesSql, []⟩, shape'⟩) ∧
    Column.Selects ["rs__key", "rs__doc_count"] recentDecadesSql ∧
    shape ≠ shape' ∧
    ∀ took rest, Response.entry ⟨"decades", .ok (recentRow :: rest), took, shape⟩ =
      Response.entry ⟨"decades", .ok (recentRow :: rest), took, shape'⟩ := by
  have h : recentDecades.compile none 10 false = .ok ("decades", ⟨some ⟨recentDecadesSql, []⟩,
      .range ⟨some "year", none, none, true, false⟩⟩) := by
    decide +kernel
  have hcopy : copiedDecades.IsCopy recentDecades recentDecadesSql := ⟨rfl, rfl, rfl, rfl, rfl⟩
  obtain ⟨shape', hcopied, hrange, -⟩ := reshapes_alike (by decide) h rfl rfl hcopy
  obtain ⟨hselects, hentry⟩ := hrange rfl
  obtain ⟨before, rest, hsql : recentDecadesSql = _⟩ := exists_select_of_compile (by decide) h rfl
  have hwritten : copiedDecades.compile none 10 true = .ok ("decades",
      ⟨some ⟨recentDecadesSql, []⟩, .written .range (some "year")⟩) := by
    rw [hsql] at hcopy ⊢
    exact hcopy.compile_eq h none 10 true
  refine ⟨_, shape', h, hcopied none 10 true, hselects, ?_,
    fun took rest => hentry took recentRow rest (by decide)⟩
  cases (hcopied none 10 true).symm.trans hwritten
  nofun

/-- **Without rows the two entries are different**: the copy finds nothing that was asked for, and
the original answers for all of it. -/
theorem entry_ne_of_no_rows (hs : d.statement? = none) (hk : d.kindOrDefault = .range)
    (h : d.compile embedded defaultSize countsRows = .ok r) (hc : r.2.statement = some s)
    (took : Json) :
    r.2.shape.entry took [] ≠ (Shape.written .range d.fieldNames.head?).entry took [] := by
  obtain ⟨field, q, hfield, -, hne, hshape, -⟩ := exists_shapeOn_of_compile hs hk h hc
  rw [hshape, hfield]
  intro heq
  have hnothing : rangeAggregations field (q.shapeOn field).minField (q.shapeOn field).maxField
      (q.wants .histogram) [] = [] := by
    simpa [Shape.entry, RangeQuery.shapeOn, writtenRangeEntry, selectedColumn?,
      aggregationEntry, rangeAggregations, insertBound] using heq
  have hnone : ∀ k, Keyed.get? k (rangeAggregations field (q.shapeOn field).minField
      (q.shapeOn field).maxField (q.wants .histogram) []) = none := fun k => by
    rw [hnothing]
    rfl
  by_cases hh : q.wants .histogram = true
  · have hbuckets := hnone field
    rw [get?_rangeAggregations, if_pos ⟨hh, rfl⟩] at hbuckets
    cases hbuckets
  · have hbounds := (RangeQuery.wants_of_ne_nil hne).resolve_left hh
    have hleast := hnone "min"
    have hgreatest := hnone "max"
    rw [get?_rangeAggregations, if_neg fun h => hh h.1] at hleast hgreatest
    simp only [RangeQuery.shapeOn] at hleast hgreatest
    rcases Bool.or_eq_true_iff.mp hbounds with hwants | hwants
    · simp [hwants] at hleast
    · simp [hwants] at hgreatest

end Descriptor

end QueryBatch
