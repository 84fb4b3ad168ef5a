import Mathlib.Data.List.DropRight
import QueryBatch.Proofs.Counts
import QueryBatch.Proofs.Resolution
import QueryBatch.Response.Aggregation
import QueryBatch.Text.Split

/-! # The columns of a term statement

A term statement selects its column without an alias and a count with one, and neither name is in
quotes. So the store names the two columns of its rows: a reference by its last part, and every name
in small letters. The rows are read back under the name of the column as the descriptor has it, and
under the alias as the statement has it. The two agree if the column is named without a qualifier
and in small letters, and not otherwise: behind a qualifier the keys are lost, and with a capital
letter the keys and the counts.

* `Column.nameOf`, `Column.named`: the names that a store gives to the columns of a statement.
* `TermQuery.ofStatement_words`: the names of the two columns of a term statement.
* `Group`, `Group.IsRow`: the groups that a store has counted, and their rows.
* `termBuckets_eq`: **the buckets of any groups**.
* `Descriptor.termBuckets_eq_iff`: **when they are the groups**.
-/

namespace QueryBatch

open Text

/-! ### Names in small letters -/

theorem lowered_eq_self_iff {s : String} : lowered s = s ↔ ∀ c ∈ s.toList, c.isUpper = false := by
  rw [lowered, ← String.toList_inj, String.toList_ofList, map_eq_self_iff]
  exact forall₂_congr fun c _ => toLower_eq_self_iff

namespace Column

/-- **The name that a store gives to a column** that a word of a statement stands for. A reference
goes by its last part; an alias has only one. -/
def nameOf (word : List Char) : String := lowered (String.ofList (word.rtakeWhile (· != '.')))

/-- **The names of the selected columns**, from the words of a statement behind its first one. Each
column is named by its last word, which stands in front of a comma or in front of `FROM`. -/
def named : List (List Char) → List String
  | word :: next :: rest =>
    if next = "FROM".toList then [nameOf word]
    else if word.getLast? = some ',' then nameOf word.dropLast :: named (next :: rest)
    else named (next :: rest)
  | _ => []

theorem nameOf_eq_self_iff {name : String} :
    nameOf name.toList = name ↔ '.' ∉ name.toList ∧ ∀ c ∈ name.toList, c.isUpper = false := by
  have hself : ∀ cs : List Char, cs.rtakeWhile (· != '.') = cs ↔ '.' ∉ cs := by
    intro cs
    rw [List.rtakeWhile_eq_self_iff]
    exact ⟨fun h hm => by simpa using h _ hm, fun h c hc => by
      rw [bne_iff_ne]
      rintro rfl
      exact h hc⟩
  constructor
  · intro h
    -- what is left of the name is as long as the name
    have hlength : (name.toList.rtakeWhile (· != '.')).length = name.toList.length := by
      have := congrArg (fun s : String => s.toList.length) h
      simpa [nameOf, lowered] using this
    have hall : name.toList.rtakeWhile (· != '.') = name.toList :=
      (List.rtakeWhile_suffix _ _).eq_of_length hlength
    rw [nameOf, hall, String.ofList_toList] at h
    exact ⟨(hself _).mp hall, lowered_eq_self_iff.mp h⟩
  · rintro ⟨hdot, hsmall⟩
    rw [nameOf, (hself _).mpr hdot, String.ofList_toList]
    exact lowered_eq_self_iff.mpr hsmall

/-- The names of the selected columns of a statement. -/
def ofStatement (sql : String) : List String :=
  named ((Text.split (· == ' ') sql.toList).drop 1)

end Column

/-- The characters of references: letters, digits, underscores, and points between the parts. -/
def isReferenceChar (c : Char) : Bool := c.isAlphanum || c == '_' || c == '.'

theorem within_termCount (field : String) :
    Within (fun c => c.isAlphanum || c == '_') (Column.termCount field) := by
  rw [Column.termCount, within_append]
  refine ⟨by decide, fun c hc => ?_⟩
  rw [String.toList_ofList] at hc
  obtain ⟨b, -, rfl⟩ := List.mem_map.mp hc
  unfold Column.nameChar
  split
  · next h => simp [h]
  · rfl

theorem nameOf_termCount (field : String) :
    Column.nameOf (Column.termCount field).toList = lowered (Column.termCount field) := by
  have hall : (Column.termCount field).toList.rtakeWhile (· != '.') =
      (Column.termCount field).toList := by
    refine List.rtakeWhile_eq_self_iff.mpr fun c hc => ?_
    rw [bne_iff_ne]
    rintro rfl
    exact absurd (within_termCount field _ hc) (by decide)
  rw [Column.nameOf, hall, String.ofList_toList]

/-- **The columns of a term statement**: its column, and the alias of the count. -/
theorem TermQuery.ofStatement_words (q : TermQuery) {field : String}
    (hfield : Within isReferenceChar field) :
    Column.ofStatement (joined " " (q.words field)) =
      [Column.nameOf field.toList, lowered (Column.termCount field)] := by
  obtain ⟨rest, hrest⟩ : ∃ rest, (joined " " (q.words field)).toList =
      "SELECT".toList ++ ' ' :: ((field.toList ++ [',']) ++ ' ' :: ("COUNT(*)".toList ++ ' ' ::
        ("AS".toList ++ ' ' :: ((Column.termCount field).toList ++ ' ' ::
          ("FROM".toList ++ ' ' :: rest))))) := by
    refine ⟨(joined ", " q.tables ++ whereClause (mergeConditions none q.condition) ++
      q.closing field).toList, ?_⟩
    rw [q.joined_words, TermQuery.opening]
    simp
  have hblank : ∀ s : String, ' ' ∉ s.toList → ∀ c ∈ s.toList, (c == ' ') = false := by
    intro s hs c hc
    rw [beq_eq_false_iff_ne]
    rintro rfl
    exact hs hc
  have hname : ' ' ∉ field.toList := fun h => absurd (hfield _ h) (by decide)
  have hcount : ' ' ∉ (Column.termCount field).toList := fun h =>
    absurd (within_termCount field _ h) (by decide)
  have hcomma : ∀ c ∈ field.toList ++ [','], (c == ' ') = false := by
    intro c hc
    rcases List.mem_append.mp hc with hc | hc
    · exact hblank field hname c hc
    · rw [List.mem_singleton.mp hc]
      rfl
  have hfrom : (Column.termCount field).toList ≠ "FROM".toList := by
    intro h
    have hhead := congrArg List.head? h
    simp [Column.termCount] at hhead
  unfold Column.ofStatement
  rw [hrest, Text.split_append_cons (hblank _ (by decide)) rfl,
    Text.split_append_cons hcomma rfl, Text.split_append_cons (hblank _ (by decide)) rfl,
    Text.split_append_cons (hblank _ (by decide)) rfl,
    Text.split_append_cons (hblank _ hcount) rfl, Text.split_append_cons (hblank _ (by decide)) rfl,
    List.drop_succ_cons, List.drop_zero]
  rw [Column.named, if_neg (by decide), if_pos (by simp), List.dropLast_concat,
    Column.named, if_neg (by decide), if_neg (by decide),
    Column.named, if_neg hfrom, if_neg (by decide), Column.named, if_pos rfl, nameOf_termCount]

/-! ### Counts as stores write them -/

/-- **Counts** as stores write them: as a number, or as its digits. -/
inductive IsCount (n : Nat) : Json → Prop
  | number : IsCount n (.ofNat n)
  | text : IsCount n (.string (toString n))

theorem IsCount.parse {n : Nat} {j : Json} (h : IsCount n j) (hn : n ≤ Json.maxUnsigned) :
    Count.parse (some j) = n := by
  cases h with
  | number =>
    have hleast : Json.minSigned ≤ 0 := by decide
    have hfits : Json.Fits (n : Int) := ⟨by omega, by omega⟩
    rw [Json.ofNat, Json.ofInt, Json.Number.ofInt?_of_fits hfits]
    rfl
  | text =>
    have hlimit : Json.maxUnsigned = 2 ^ 64 - 1 := by decide
    exact Count.ofText_toString (n := n) (by omega)

/-! ### Groups and buckets -/

/-- **A group**: a value of a column, and the number of rows that have it, which has 64 bits. -/
structure Group where
  key : Json
  count : Nat
  fits : count ≤ Json.maxUnsigned

def Group.bucket (g : Group) : Bucket := ⟨g.key, g.count⟩

/-- **The row of a group** under the names of two columns. -/
inductive Group.IsRow (columns : List String) (g : Group) : Row → Prop
  | intro {count : Json} (h : IsCount g.count count) :
    IsRow columns g (Keyed.ofList (columns.zip [g.key, count]))

namespace Column

/-- The counts of a term statement are found: its column has no capital letter. -/
def IsSmall (field : String) : Prop := ∀ c ∈ field.toList, c.isUpper = false

/-- The keys of a term statement are found too: its column has no qualifier either. -/
def IsBare (field : String) : Prop := '.' ∉ field.toList ∧ IsSmall field

instance (field : String) : Decidable (IsSmall field) :=
  List.decidableBAll (fun c : Char => c.isUpper = false) field.toList

instance (field : String) : Decidable (IsBare field) := inferInstanceAs (Decidable (_ ∧ _))

theorem lowered_termCount_eq_self_iff {field : String} :
    lowered (termCount field) = termCount field ↔ IsSmall field := by
  have hchar : ∀ c : Char, (nameChar c).isUpper = c.isUpper := by
    intro c
    unfold nameChar
    split
    · rfl
    · next h =>
      have h : ¬ (c.isUpper || c.isLower || c.isDigit) = true := h
      simp only [Bool.or_eq_true, not_or, Bool.not_eq_true] at h
      rw [h.1.1]
      rfl
  have hprefix : IsSmall "rs__term_count_" := by decide
  have htext : (termCount field).toList =
      "rs__term_count_".toList ++ field.toList.map nameChar := by
    simp only [termCount, String.toList_append, String.toList_ofList]
  rw [lowered_eq_self_iff, htext]
  constructor
  · intro h c hc
    rw [← hchar c]
    exact h _ (List.mem_append_right _ (List.mem_map_of_mem hc))
  · intro h c hc
    rcases List.mem_append.mp hc with hc | hc
    · exact hprefix c hc
    · obtain ⟨b, hb, rfl⟩ := List.mem_map.mp hc
      rw [hchar b]
      exact h b hb

theorem length_nameOf_le (word : List Char) : (nameOf word).toList.length ≤ word.length := by
  simpa [nameOf, lowered] using (List.rtakeWhile_suffix _ word).length_le

theorem length_termCount (field : String) :
    (termCount field).toList.length = field.toList.length + 15 := by
  simp [termCount]

theorem length_lowered (s : String) : (lowered s).toList.length = s.toList.length := by
  simp [lowered]

end Column

/-- **The bucket of the row of a group**: it has the key if the column has neither a qualifier nor a
capital letter, and the count if it has no capital letter. -/
theorem Group.IsRow.bucket_eq {field : String} {g : Group} {row : Row}
    (h : g.IsRow [Column.nameOf field.toList, lowered (Column.termCount field)] row) :
    Row.bucket row field (Column.termCount field) =
      ⟨if Column.IsBare field then g.key else .null,
        if Column.IsSmall field then g.count else 0⟩ := by
  obtain ⟨hcount⟩ := h
  have hname := Column.length_nameOf_le field.toList
  have halias := Column.length_termCount field
  have hlowered := Column.length_lowered (Column.termCount field)
  -- the names of the two columns are told apart by their lengths
  have hne : ∀ {s t : String}, s.toList.length < t.toList.length → s ≠ t := by
    rintro s _ hlt rfl
    exact Nat.lt_irrefl _ hlt
  have hkeys : Column.nameOf field.toList ≠ lowered (Column.termCount field) := hne (by omega)
  have hfield : field ≠ lowered (Column.termCount field) := hne (by omega)
  have hcolumn : Column.termCount field ≠ Column.nameOf field.toList := (hne (by omega)).symm
  have hbare : field = Column.nameOf field.toList ↔ Column.IsBare field :=
    eq_comm.trans Column.nameOf_eq_self_iff
  have hsmall : Column.termCount field = lowered (Column.termCount field) ↔ Column.IsSmall field :=
    eq_comm.trans Column.lowered_termCount_eq_self_iff
  rw [Row.bucket, Row.valueOf, List.zip_cons_cons, List.zip_cons_cons, List.zip_nil_left,
    Keyed.get?_ofList _ (by simpa using hkeys), Keyed.get?_ofList _ (by simpa using hkeys)]
  simp only [Keyed.get?, hfield, hcolumn, if_false, hbare, hsmall]
  by_cases hs : Column.IsSmall field
  · by_cases hb : Column.IsBare field
    · simp [hs, hb, hcount.parse g.fits]
    · simp [hs, hb, hcount.parse g.fits]
  · have hb : ¬ Column.IsBare field := fun hb => hs hb.2
    simp [hs, hb, Count.parse]

/-- **The buckets of any groups** that a term statement gives, in their order. -/
theorem termBuckets_eq {field : String} {columns : List String} {groups : List Group}
    {rows : List Row}
    (hc : columns = [Column.nameOf field.toList, lowered (Column.termCount field)])
    (h : List.Forall₂ (Group.IsRow columns) groups rows) :
    termBuckets field rows = groups.map fun g =>
      ⟨if Column.IsBare field then g.key else .null,
        if Column.IsSmall field then g.count else 0⟩ := by
  subst hc
  exact (Outcome.map_eq_of_forall₂ h fun g row hrow => hrow.bucket_eq.symm).symm

theorem termBuckets_eq_map_iff {field : String} {columns : List String}
    (hc : columns = [Column.nameOf field.toList, lowered (Column.termCount field)]) :
    (∀ groups rows, List.Forall₂ (Group.IsRow columns) groups rows →
      termBuckets field rows = groups.map Group.bucket) ↔ Column.IsBare field := by
  constructor
  · intro h
    let g : Group := ⟨.bool true, 0, Nat.zero_le _⟩
    have hrows : List.Forall₂ (Group.IsRow columns) [g] [_] := .cons (.intro .number) .nil
    have hkey := (termBuckets_eq hc hrows).symm.trans (h [g] _ hrows)
    by_contra hbare
    rw [List.map_singleton, if_neg hbare] at hkey
    cases congrArg Bucket.key (List.singleton_inj.mp hkey)
  · intro hbare groups rows h
    rw [termBuckets_eq hc h]
    simp only [if_pos hbare, if_pos hbare.2]
    rfl

namespace Descriptor

variable {d : Descriptor} {embedded : Option (List Binary64)} {defaultSize : Nat}
  {countsRows : Bool} {c : String × Compiled}

theorem exists_term_of_compile (hs : d.statement? = none) (hk : d.kindOrDefault = .term)
    (h : d.compile embedded defaultSize countsRows = .ok c) :
    ∃ (field : String) (q : TermQuery), d.fieldNames.head? = some field ∧
      c.2 = ⟨some ⟨joined " " (q.words field), []⟩, .term field⟩ := by
  obtain ⟨-, q, -, hq, hc⟩ := compile_eq_ok h
  cases hq with
  | written hw =>
    rw [hs] at hw
    cases hw
  | search _ hk' =>
    rw [hk] at hk'
    rcases hk' with hk' | hk' <;> cases hk'
  | range _ hk' =>
    rw [hk] at hk'
    cases hk'
  | term =>
    simp only [Query.compile, TermQuery.compile] at hc
    cases hn : d.fieldNames with
    | nil =>
      rw [hn] at hc
      cases hc
    | cons field others =>
      rw [hn] at hc
      exact ⟨field, _, rfl, (Except.ok.inj hc).symm⟩

/-- **The groups of a term statement and its buckets.** The store names the two columns of the
statement, and the buckets have the keys and the counts that are found under the names that are
looked up. They are the groups, whatever groups there are, if and only if the first data column is
named without a qualifier and without capital letters. -/
theorem termBuckets_eq_iff (hs : d.statement? = none) (hk : d.kindOrDefault = .term)
    (hfield : ∀ f ∈ d.fieldNames.head?, Within isReferenceChar f)
    (h : d.compile embedded defaultSize countsRows = .ok c) :
    ∃ field sql, d.fieldNames.head? = some field ∧
      c.2 = ⟨some ⟨sql, []⟩, .term field⟩ ∧
      (∀ groups rows, List.Forall₂ (Group.IsRow (Column.ofStatement sql)) groups rows →
        termBuckets field rows = groups.map fun g =>
          ⟨if Column.IsBare field then g.key else .null,
            if Column.IsSmall field then g.count else 0⟩) ∧
      ((∀ groups rows, List.Forall₂ (Group.IsRow (Column.ofStatement sql)) groups rows →
        termBuckets field rows = groups.map Group.bucket) ↔ Column.IsBare field) := by
  obtain ⟨field, q, hf, hc⟩ := exists_term_of_compile hs hk h
  have hcolumns := q.ofStatement_words (hfield field hf)
  exact ⟨field, _, hf, hc, fun groups rows => termBuckets_eq hcolumns,
    termBuckets_eq_map_iff hcolumns⟩

def termsOf (field : String) : Descriptor :=
  { (default : Descriptor) with
    id := some "genres", tables := some (.one "books"), kind := some .term
    dataFields := some (.one field) }

theorem exists_compile_termsOf (field : String) (h : Identifier.isSafe field = true) :
    ∃ q : TermQuery, (termsOf field).compile none 10 false =
      .ok ("genres", ⟨some ⟨joined " " (q.words field), []⟩, .term field⟩) := by
  have htables : (termsOf field).resolveTables = .ok ["books"] := rfl
  have hfields : Identifier.checkAll (termsOf field).fieldNames = .ok () :=
    Identifier.checkAll_eq_ok_iff.mpr fun f hf => (List.mem_singleton.mp hf).symm ▸ h
  refine ⟨⟨["books"], [field], none, none⟩, ?_⟩
  unfold compile resolve
  simp only [htables, hfields, bind, Except.bind]
  rfl

/-- A column without a qualifier and in small letters. -/
theorem termBuckets_eq_iff_genre :
    ∃ sql, (termsOf "genre").compile none 10 false =
        .ok ("genres", ⟨some ⟨sql, []⟩, .term "genre"⟩) ∧
      ∀ groups rows, List.Forall₂ (Group.IsRow (Column.ofStatement sql)) groups rows →
        termBuckets "genre" rows = groups.map Group.bucket := by
  obtain ⟨q, h⟩ := exists_compile_termsOf "genre" (by decide)
  have hfield : ∀ f ∈ (termsOf "genre").fieldNames.head?, Within isReferenceChar f := by
    rintro f ⟨⟩
    decide
  obtain ⟨field, sql, -, hc, -, hall⟩ := termBuckets_eq_iff rfl rfl hfield h
  cases hc
  exact ⟨_, h, hall.mpr (by decide)⟩

def fantasy : Group := ⟨.string "fantasy", 12, by decide⟩

/-- **A qualified column loses its keys, and one with a capital letter its counts too.** -/
theorem not_termBuckets_qualified :
    (∃ sql row, (termsOf "books.genre").compile none 10 false =
        .ok ("genres", ⟨some ⟨sql, []⟩, .term "books.genre"⟩) ∧
      Column.ofStatement sql = ["genre", "rs__term_count_books_genre"] ∧
      fantasy.IsRow (Column.ofStatement sql) row ∧
      termBuckets "books.genre" [row] = [⟨.null, 12⟩] ∧
      termBuckets "books.genre" [row] ≠ [fantasy].map Group.bucket) ∧
    ∃ sql row, (termsOf "Genre").compile none 10 false =
        .ok ("genres", ⟨some ⟨sql, []⟩, .term "Genre"⟩) ∧
      Column.ofStatement sql = ["genre", "rs__term_count_genre"] ∧
      fantasy.IsRow (Column.ofStatement sql) row ∧
      termBuckets "Genre" [row] = [⟨.null, 0⟩] ∧
      termBuckets "Genre" [row] ≠ [fantasy].map Group.bucket := by
  obtain ⟨q, hq⟩ := exists_compile_termsOf "books.genre" (by decide)
  obtain ⟨c, hc⟩ := exists_compile_termsOf "Genre" (by decide)
  have hqualified : Column.ofStatement (joined " " (q.words "books.genre")) =
      ["genre", "rs__term_count_books_genre"] :=
    (q.ofStatement_words (by decide)).trans (by decide +kernel)
  have hcapital : Column.ofStatement (joined " " (c.words "Genre")) =
      ["genre", "rs__term_count_genre"] :=
    (c.ofStatement_words (by decide)).trans (by decide +kernel)
  refine ⟨⟨_, _, hq, hqualified, .intro .number, ?_, ?_⟩,
    _, _, hc, hcapital, .intro .number, ?_, ?_⟩
  · rw [hqualified]
    decide +kernel
  · rw [hqualified]
    decide +kernel
  · rw [hcapital]
    decide +kernel
  · rw [hcapital]
    decide +kernel

end Descriptor

end QueryBatch
