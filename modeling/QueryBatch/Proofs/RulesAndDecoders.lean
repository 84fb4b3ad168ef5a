import QueryBatch.Descriptor.Batch
import QueryBatch.Proofs.Outcome

/-! # Rules and decoders

A value is checked against the rules before it is decoded, and the two are written apart: a rule
speaks of a value as it stands, a decoder takes it to something else. A rule *suits* a decoder if
the decoder takes all that the rule lets through. The rule of every part of a descriptor suits its
decoder, but for two things: a number without fraction may be written as a double, which no count is
decoded from, and the relations have two names, of which only one may be used.

* `Schema.Suits`: a decoder takes what a rule lets through.
* `Decoder.Reads`, `Descriptor.exists_ofFields_iff`: an object is decoded part by part.
* `Descriptor.decode_fails_iff`: **what keeps the rules and is not decoded**.
-/

namespace QueryBatch

open Outcome
open Json (Decoder Mismatch)

/-! ### Parts of an object -/

namespace Json.Decoder

variable {α : Type} {fields : Keyed Json} {name : String} {decode : Decoder α}

/-- **A part of an object is read**: it is decoded, or is not there. -/
def Reads (fields : Keyed Json) (name : String) (decode : Decoder α) : Prop :=
  ∃ a, field fields name decode = .ok a

theorem reads_iff : Reads fields name decode ↔
    ∀ v, Keyed.get? name fields = some v → v = .null ∨ ∃ a, decode v = .ok a := by
  unfold Reads field
  cases Keyed.get? name fields with
  | none => simp
  | some v =>
    cases v <;> simp [optional, map_eq_ok]

end Json.Decoder

/-! ### Rules -/

namespace Schema

variable {α : Type} {rule : Rule} {rules : List Rule} {decode : Decoder α} {j : Json}
  {fields : Keyed Json} {name : String}

theorem hasType_eq_nil_iff {t : TypeName} : hasType t j = [] ↔ t.admits j = true := by
  unfold hasType
  split <;> simp_all

theorem all_eq_nil_iff : all rules j = [] ↔ ∀ rule ∈ rules, rule j = [] :=
  List.flatMap_eq_nil_iff

theorem accepted_eq_nil_iff {accepts : Json → Bool} :
    accepted accepts j = [] ↔ accepts j = true := by
  unfold accepted
  split <;> simp_all

/-- **A rule suits a decoder** that takes all that the rule lets through. -/
def Suits (rule : Rule) (decode : Decoder α) : Prop := ∀ j, rule j = [] → ∃ a, decode j = .ok a

theorem suits_string : Suits (hasType .string) Decoder.string := by
  intro j h
  cases j with
  | string s => exact ⟨s, rfl⟩
  | _ => simp [hasType, TypeName.admits] at h

theorem suits_bool : Suits (hasType .boolean) Decoder.bool := by
  intro j h
  cases j with
  | bool b => exact ⟨b, rfl⟩
  | _ => simp [hasType, TypeName.admits] at h

theorem suits_real : Suits (hasType .number) Decoder.real := by
  intro j h
  cases j with
  | number n => exact ⟨n.toBinary64, rfl⟩
  | _ => simp [hasType, TypeName.admits] at h

theorem Suits.all_of_mem (h : Suits rule decode) (hr : rule ∈ rules) : Suits (all rules) decode :=
  fun j hj => h j (all_eq_nil_iff.mp hj rule hr)

theorem Suits.list (h : Suits rule decode) (he : eachItem rule ∈ rules)
    (ha : hasType .array ∈ rules) : Suits (all rules) (Decoder.list decode) := by
  intro j hj
  have hall := all_eq_nil_iff.mp hj
  have htype := hasType_eq_nil_iff.mp (hall _ ha)
  cases j with
  | array items =>
    have hitems := List.flatMap_eq_nil_iff.mp (hall _ he)
    exact exists_mapM_eq_ok_iff.mpr fun item hitem => h item (hitems item hitem)
  | _ => simp [TypeName.admits] at htype

theorem suits_variant (known : List (String × α)) :
    Suits (isAmong (known.map Prod.fst)) (Decoder.variant known) := by
  intro j h
  cases j with
  | string name =>
    have hname : name ∈ known.map Prod.fst := by
      by_contra hn
      simp [isAmong, hn] at h
    rw [Decoder.variant, Decoder.named]
    split
    · next a _ => exact ⟨a, rfl⟩
    · next hnone =>
      obtain ⟨p, hp, rfl⟩ := List.mem_map.mp hname
      have hne := List.lookup_eq_none_iff.mp hnone p hp
      simp at hne
  | _ => simp [isAmong] at h

theorem fieldKeeps_eq_nil_iff : fieldKeeps name rule (.object fields) = [] ↔
    ∀ v, Keyed.get? name fields = some v → rule v = [] := by
  have hfield : (Json.object fields).field? name = Keyed.get? name fields := rfl
  unfold fieldKeeps
  rw [hfield]
  cases Keyed.get? name fields <;> simp

theorem Suits.reads (h : Suits rule decode) (hk : fieldKeeps name rule (.object fields) = []) :
    Decoder.Reads fields name decode :=
  Decoder.reads_iff.mpr fun v hv => .inr (h v (fieldKeeps_eq_nil_iff.mp hk v hv))

/-! ### The shapes of single parts -/

theorem suits_tables : Suits (accepted isTextOrTexts) Tables.decode := by
  intro j h
  rw [accepted_eq_nil_iff] at h
  cases j with
  | string s => exact ⟨.one s, rfl⟩
  | array items =>
    obtain ⟨names, hnames⟩ : ∃ names, Decoder.list Decoder.string (.array items) = .ok names :=
      exists_mapM_eq_ok_iff.mpr fun item hitem =>
        suits_string item (hasType_eq_nil_iff.mpr (List.all_eq_true.mp h item hitem))
    exact ⟨.many names, by simp only [Tables.decode, hnames]⟩
  | _ => simp [isTextOrTexts] at h

/-- A column is decoded, with or without a weight; what else the object has is ignored. -/
theorem exists_decode_of_isColumn (h : isColumn j = true) : ∃ f, DataField.decode j = .ok f := by
  cases j with
  | string s => exact ⟨.plain s, rfl⟩
  | object fields =>
    rw [isColumn, Bool.and_eq_true] at h
    obtain ⟨hname, hweight⟩ := h
    have hweight : Decoder.Reads fields "weight" Decoder.real := by
      refine suits_real.reads (fieldKeeps_eq_nil_iff.mpr fun v hv => hasType_eq_nil_iff.mpr ?_)
      simpa [hv] using hweight
    obtain ⟨weight, hweight⟩ := hweight
    cases hv : Keyed.get? "field" fields with
    | none => simp [hv] at hname
    | some v =>
      cases v with
      | string s =>
        have hfield : Decoder.field fields "field" Decoder.string = .ok (some s) := by
          rw [Decoder.field, hv]
          rfl
        refine ⟨.weighted s weight, ?_⟩
        rw [DataField.decode, hfield, hweight]
        rfl
      | _ => simp [hv, TypeName.admits] at hname
  | _ => simp [isColumn] at h

theorem suits_dataFields : Suits (accepted isTextOrColumns) DataFields.decode := by
  intro j h
  rw [accepted_eq_nil_iff] at h
  cases j with
  | string s => exact ⟨.one s, rfl⟩
  | array items =>
    obtain ⟨columns, hcolumns⟩ :
        ∃ columns, Decoder.list DataField.decode (.array items) = .ok columns :=
      exists_mapM_eq_ok_iff.mpr fun item hitem =>
        exists_decode_of_isColumn (List.all_eq_true.mp h item hitem)
    exact ⟨.many columns, by simp only [DataFields.decode, hcolumns]⟩
  | _ => simp [isTextOrColumns] at h

theorem suits_handWritten :
    Suits (all [fieldKeeps "query" (hasType .string), hasType .object]) HandWritten.decode := by
  intro j h
  have hall := all_eq_nil_iff.mp h
  have htype := hasType_eq_nil_iff.mp (hall (hasType .object) (by simp))
  cases j with
  | object fields =>
    obtain ⟨query, hquery⟩ := suits_string.reads (hall _ List.mem_cons_self)
    exact ⟨⟨query⟩, by rw [HandWritten.decode, hquery]; rfl⟩
  | _ => simp [TypeName.admits] at htype

end Schema

/-! ### Counts -/

/-- The kind of numbers that are not decoded as counts: one written with a point or an exponent, or
one that is too great for 64 bits. -/
def Json.IsDouble (j : Json) : Prop := ∃ x finite, j = .number (.double x finite)

namespace Schema

variable {minimum : Nat} {j : Json}

theorem atLeast_number_eq_nil_iff {n : Json.Number} :
    atLeast minimum (.number n) = [] ↔ (minimum * Magnitude.unitsPerOne : Nat) ≤ n.units := by
  unfold atLeast
  dsimp only
  split
  · next h => exact iff_of_false (List.cons_ne_nil _ _) (Int.not_le.mpr h)
  · next h => exact iff_of_true rfl (Int.not_lt.mp h)

/-- The rule for a part that is a count. -/
def isCount (minimum : Nat) : Rule := all [atLeast minimum, hasType .integer]

/-- What the rule for a count lets through is a count, or a double without fraction and of at least
the minimum. -/
theorem isCount_cases (h : isCount minimum j = []) :
    (∃ n, Descriptor.size64 j = .ok n ∧ ¬ j.IsDouble) ∨
      ∃ x finite, j = .number (.double x finite) ∧ x.isWhole = true ∧
        (minimum * Magnitude.unitsPerOne : Nat) ≤ x.units := by
  have hall := all_eq_nil_iff.mp h
  have hleast := hall (atLeast minimum) (by simp)
  have htype := hasType_eq_nil_iff.mp (hall (hasType .integer) (by simp))
  cases j with
  | number n =>
    cases n with
    | int i fits =>
      have hnot : ¬ i < 0 := by
        intro hi
        have hpos : (0 : Int) < Magnitude.unitsPerOne := by exact_mod_cast Magnitude.unitsPerOne_pos
        have hunits : i * (Magnitude.unitsPerOne : Int) < 0 := Int.mul_neg_of_neg_of_pos hi hpos
        have hle : ((minimum * Magnitude.unitsPerOne : Nat) : Int) ≤ i * Magnitude.unitsPerOne :=
          atLeast_number_eq_nil_iff.mp hleast
        omega
      refine .inl ⟨i.toNat, ?_, ?_⟩
      · rw [Descriptor.size64, Decoder.count, if_neg hnot]
      · rintro ⟨x, finite, hj⟩
        cases hj
    | double x finite => exact .inr ⟨x, finite, rfl, htype, atLeast_number_eq_nil_iff.mp hleast⟩
  | _ => simp [TypeName.admits] at htype

end Schema

/-! ### Descriptors -/

namespace Descriptor

open Json.Decoder (Reads)

variable {fields : Keyed Json} {j : Json}

theorem exists_decodeTable_iff {index : Option Tables} :
    (∃ tables, decodeTable fields index = .ok tables) ↔
      Reads fields "table" Tables.decode ∧
        ¬ (Keyed.contains "table" fields = true ∧ Keyed.contains "index" fields = true) := by
  unfold decodeTable
  split
  · next ht =>
    split
    · next hi => simp [ht, hi]
    · next hi => simp [ht, hi, Reads]
  · next ht =>
    have hnone : Keyed.get? "table" fields = none := by
      simpa [Keyed.contains] using ht
    simp [ht, Decoder.reads_iff, hnone]

/-- **An object is decoded if all of its parts are read**, and its relations stand under one
name. -/
theorem exists_ofFields_iff : (∃ d, ofFields fields = .ok d) ↔
    Reads fields "aggregationSize" size64 ∧
    Reads fields "aggregations" (Decoder.list (Decoder.variant Aggregation.names)) ∧
    Reads fields "dataField" DataFields.decode ∧
    Reads fields "defaultQuery" HandWritten.decode ∧
    Reads fields "execute" Decoder.bool ∧
    Reads fields "from" size64 ∧
    Reads fields "id" Decoder.string ∧
    Reads fields "includeFields" (Decoder.list Decoder.string) ∧
    Reads fields "index" Tables.decode ∧
    Reads fields "interval" Decoder.real ∧
    Reads fields "queryFormat" (Decoder.variant Connective.names) ∧
    Reads fields "queryVector" (Decoder.list Decoder.real) ∧
    Reads fields "size" size64 ∧
    Reads fields "sortBy" Decoder.string ∧
    Reads fields "sortField" Decoder.string ∧
    (Reads fields "table" Tables.decode ∧
      ¬ (Keyed.contains "table" fields = true ∧ Keyed.contains "index" fields = true)) ∧
    Reads fields "type" (Decoder.variant Kind.names) ∧
    Reads fields "value" anyValue ∧
    Reads fields "vectorDataField" Decoder.string ∧
    Reads fields "where" Decoder.string := by
  simp only [ofFields, exists_bind_eq_ok, pure_eq_ok, Except.ok.injEq, exists_eq', and_true,
    exists_and_right, exists_decodeTable_iff]
  rfl

/-- The parts that are counts. -/
def countNames : List String := ["size", "from", "aggregationSize"]

/-- A count is written as a double. -/
def HasDoubleCount (j : Json) : Prop :=
  ∃ name ∈ countNames, ∃ v, j.field? name = some v ∧ v.IsDouble

/-- The relations stand under both of their names. -/
def NamesTablesTwice (j : Json) : Prop :=
  (j.field? "table").isSome = true ∧ (j.field? "index").isSome = true

theorem reads_size64_iff {name : String} {minimum : Nat}
    (hk : Schema.fieldKeeps name (Schema.isCount minimum) (.object fields) = []) :
    Reads fields name size64 ↔ ¬ ∃ v, Keyed.get? name fields = some v ∧ v.IsDouble := by
  rw [Json.Decoder.reads_iff, not_exists]
  refine forall_congr' fun v => ?_
  rw [not_and]
  refine imp_congr_right fun hv => ?_
  rcases Schema.isCount_cases (Schema.fieldKeeps_eq_nil_iff.mp hk v hv) with
    ⟨n, hn, hdouble⟩ | ⟨x, finite, rfl, -, -⟩
  · exact iff_of_true (.inr ⟨n, hn⟩) hdouble
  · refine iff_of_false ?_ fun hdouble => hdouble ⟨x, finite, rfl⟩
    rintro (hnull | ⟨n, hn⟩)
    · cases hnull
    · cases hn

/-- An object that breaks no rule is decoded unless it has one of the two faults that no rule is
about. -/
theorem exists_ofFields_of_problems (h : Schema.problems (.object fields) = []) :
    (∃ d, ofFields fields = .ok d) ↔
      ¬ NamesTablesTwice (.object fields) ∧ ¬ HasDoubleCount (.object fields) := by
  have hkeeps := (List.append_eq_nil_iff.mp h).1
  simp only [Schema.parts, List.flatMap_cons, List.flatMap_nil, List.append_eq_nil_iff] at hkeeps
  obtain ⟨haggregationSize, haggregations, hdataField, hdefaultQuery, hexecute, hfrom, hid,
    hincludeFields, hindex, hinterval, hqueryFormat, hqueryVector, hsize, hsortBy, hsortField,
    htable, htype, hvectorDataField, hwhere, -⟩ := hkeeps
  have hcounts : ¬ HasDoubleCount (.object fields) ↔ Reads fields "size" size64 ∧
      Reads fields "from" size64 ∧ Reads fields "aggregationSize" size64 := by
    rw [reads_size64_iff hsize, reads_size64_iff hfrom, reads_size64_iff haggregationSize,
      ← not_or, ← not_or]
    simp [HasDoubleCount, countNames, Json.field?, Json.object?]
  rw [exists_ofFields_iff, hcounts]
  constructor
  · rintro ⟨haggregationSize, -, -, -, -, hfrom, -, -, -, -, -, -, hsize, -, -, ⟨-, htwice⟩, -⟩
    exact ⟨htwice, hsize, hfrom, haggregationSize⟩
  · rintro ⟨htwice, hsize, hfrom, haggregationSize⟩
    have htext : ∀ {rules : List Schema.Rule}, Schema.hasType .string ∈ rules →
        Schema.Suits (Schema.all rules) Json.Decoder.string := Schema.suits_string.all_of_mem
    exact ⟨haggregationSize,
      ((Schema.suits_variant Aggregation.names).list (by simp [Aggregation.names]) (by simp)).reads
        haggregations,
      Schema.suits_dataFields.reads hdataField, Schema.suits_handWritten.reads hdefaultQuery,
      Schema.suits_bool.reads hexecute, hfrom, (htext (by simp)).reads hid,
      (Schema.suits_string.list (by simp) (by simp)).reads hincludeFields,
      Schema.suits_tables.reads hindex, (Schema.suits_real.all_of_mem (by simp)).reads hinterval,
      (Schema.suits_variant Connective.names).reads hqueryFormat,
      (Schema.suits_real.list (by simp) (by simp)).reads hqueryVector, hsize,
      Schema.suits_string.reads hsortBy, Schema.suits_string.reads hsortField,
      ⟨Schema.suits_tables.reads htable, htwice⟩,
      (Schema.suits_variant Kind.names).reads htype,
      Json.Decoder.reads_iff.mpr fun v _ => .inr ⟨v, rfl⟩,
      Schema.suits_string.reads hvectorDataField, Schema.suits_string.reads hwhere⟩

theorem keeps_isCount_of_problems (h : Schema.problems (.object fields) = []) :
    ∀ name ∈ countNames, ∃ minimum,
      Schema.fieldKeeps name (Schema.isCount minimum) (.object fields) = [] := by
  have hkeeps := List.flatMap_eq_nil_iff.mp (List.append_eq_nil_iff.mp h).1
  intro name hname
  simp only [countNames, List.mem_cons, List.not_mem_nil, or_false] at hname
  rcases hname with rfl | rfl | rfl
  · exact ⟨0, hkeeps ("size", Schema.isCount 0) (by simp [Schema.parts, Schema.isCount])⟩
  · exact ⟨0, hkeeps ("from", Schema.isCount 0) (by simp [Schema.parts, Schema.isCount])⟩
  · exact ⟨1, hkeeps ("aggregationSize", Schema.isCount 1)
      (by simp [Schema.parts, Schema.isCount])⟩

/-- **What keeps the rules and is not decoded.** A value that breaks no rule is not decoded if and
only if its relations stand under both names, or a count is a double. Such a double has no fraction
and is not below zero. -/
theorem decode_fails_iff (h : Schema.problems j = []) :
    ((∃ e, decode j = .error e) ↔ NamesTablesTwice j ∨ HasDoubleCount j) ∧
    (¬ NamesTablesTwice j → ¬ HasDoubleCount j → ∃ d, decode j = .ok d) ∧
    ∀ name ∈ countNames, ∀ x finite, j.field? name = some (.number (.double x finite)) →
      x.isWhole = true ∧ 0 ≤ x.units := by
  cases j with
  | object fields =>
    have hiff := exists_ofFields_of_problems h
    refine ⟨?_, fun htwice hdouble => hiff.mpr ⟨htwice, hdouble⟩,
      fun name hname x finite hx => ?_⟩
    · rw [exists_eq_error_iff, decode, hiff, not_and_or, not_not, not_not]
    · obtain ⟨minimum, hk⟩ := keeps_isCount_of_problems h name hname
      rcases Schema.isCount_cases (Schema.fieldKeeps_eq_nil_iff.mp hk _ hx) with
        ⟨_, -, hdouble⟩ | ⟨_, _, hx, hwhole, hle⟩
      · exact absurd ⟨x, finite, rfl⟩ hdouble
      · cases hx
        exact ⟨hwhole, by omega⟩
  | _ => simp [Schema.problems] at h

/-- A value whose relations stand under both names. -/
def twiceNamed : Json :=
  .object [("id", .string "titles"), ("index", .string "books"), ("table", .string "books")]

/-- A value with an offset that 64 bits do not hold, and that is therefore a double. -/
def farOffset : Json :=
  .object [
    ("from", .ofInt 18446744073709551616), ("id", .string "titles"), ("table", .string "books")]

/-- A value with the greatest offset that is none, with nested columns and with keys that mean
nothing. -/
def greatestOffset : Json :=
  .object [
    ("dataField", .array [.string "title",
      .object [("field", .string "author"), ("note", .null), ("weight", .ofInt 2)]]),
    ("from", .ofInt 18446744073709551615), ("id", .string "titles"), ("note", .array [.null]),
    ("value", .object [("a", .array [.null, .ofInt 1])])]

/-- Of the three values, none of which breaks a rule, the last one alone is decoded. -/
theorem decode_fails_iff_offsets :
    (Schema.problems twiceNamed = [] ∧ ∃ e, decode twiceNamed = .error e) ∧
    (Schema.problems farOffset = [] ∧ ∃ e, decode farOffset = .error e) ∧
    (Schema.problems greatestOffset = [] ∧ ∃ d, decode greatestOffset = .ok d) := by
  have htwice : Schema.problems twiceNamed = [] := by decide +kernel
  have hfar : Schema.problems farOffset = [] := by decide +kernel
  have hgreatest : Schema.problems greatestOffset = [] := by decide +kernel
  have hdouble : (Json.ofInt 18446744073709551616).IsDouble :=
    ⟨.ofInt 18446744073709551616, by decide +kernel, by decide +kernel⟩
  have honce : ¬ NamesTablesTwice greatestOffset := fun h => absurd h.1 (by decide)
  have hfrom : greatestOffset.field? "from" =
      some (.number (.int 18446744073709551615 (by decide))) := by
    decide +kernel
  have hwhole : ¬ HasDoubleCount greatestOffset := by
    rintro ⟨name, hname, v, hv, x, finite, rfl⟩
    simp only [countNames, List.mem_cons, List.not_mem_nil, or_false] at hname
    rcases hname with rfl | rfl | rfl
    · cases hv
    · cases hfrom.symm.trans hv
    · cases hv
  exact ⟨⟨htwice, (decode_fails_iff htwice).1.mpr (.inl ⟨rfl, rfl⟩)⟩,
    ⟨hfar, (decode_fails_iff hfar).1.mpr (.inr ⟨"from", by decide, _, rfl, hdouble⟩)⟩,
    ⟨hgreatest, (decode_fails_iff hgreatest).2.1 honce hwhole⟩⟩

end Descriptor

end QueryBatch
