import QueryBatch.Proofs.Placeholder
import QueryBatch.Proofs.Resolution
import QueryBatch.Proofs.ShortestDecimals

/-! # Frames have no slots

The text around the conditions of a statement is made of names, numbers and fixed words. If no name
has a dollar sign, then none of it is a slot; and what follows a condition does not begin with a
digit, so that it lengthens no slot of the condition either.

* `Query.plain_frame`: **no part of a frame has a slot**.
* `Query.clear_frame`: **no part of a frame lengthens a slot**.
-/

namespace QueryBatch

open Text

/-! ### Plain text -/

theorem plain_of_within {s : String} (h : Within isNumeral s) : Plain s := by
  refine h.mono fun c hc => ?_
  rw [bne_iff_ne]
  rintro rfl
  revert hc
  decide

theorem plain_toString (n : Nat) : Plain (toString n) := plain_of_within (within_toString_nat n)

theorem plain_termCount (field : String) : Plain (Column.termCount field) := by
  rw [Column.termCount, plain_append]
  refine ⟨by decide, fun c hc => ?_⟩
  rw [String.toList_ofList] at hc
  obtain ⟨a, -, rfl⟩ := List.mem_map.mp hc
  unfold Column.nameChar
  split
  · next ha =>
    rw [bne_iff_ne]
    rintro rfl
    revert ha
    decide
  · rfl

theorem plain_vectorLiteral (v : List Binary64) : Plain (vectorLiteral v) := by
  rw [vectorLiteral, plain_append, plain_append]
  refine ⟨⟨by decide, within_joined (by decide) fun s hs => ?_⟩, by decide⟩
  obtain ⟨x, -, rfl⟩ := List.mem_map.mp hs
  exact plain_of_within (Layout.component.within_write x)

theorem plain_widthLiteral (x : Binary64) : Plain (widthLiteral x) := by
  unfold widthLiteral
  split
  · decide
  · exact plain_of_within (Layout.width.within_write x)

/-! ### Frames have no slots -/

theorem SearchQuery.plain_orderTokens {q : SearchQuery}
    (hn : ∀ s ∈ (Query.search q).names, Plain s) : ∀ s ∈ q.orderTokens, Plain s := by
  have hname : ∀ {s}, s ∈ q.sortField ∨ s ∈ q.vector.map VectorOrder.field ∨ s ∈ q.dataFields →
      Plain s := by
    intro s hs
    refine hn s ?_
    simp only [Query.names, List.mem_append, Option.mem_toList]
    tauto
  intro s hs
  unfold orderTokens at hs
  split at hs
  · next v hv =>
    simp only [vectorTokens, List.mem_cons, List.not_mem_nil, or_false] at hs
    rcases hs with rfl | rfl | rfl
    · exact hname (.inr (.inl (by rw [hv]; rfl)))
    · decide
    · exact plain_vectorLiteral _
  · unfold sortTokens at hs
    split at hs
    · next field hfield =>
      simp only [List.mem_cons, List.not_mem_nil, or_false] at hs
      rcases hs with rfl | rfl
      · cases hsort : q.sortField with
        | none =>
          rw [hsort, Option.none_or] at hfield
          exact hname (.inr (.inr (List.mem_of_head? hfield)))
        | some f =>
          rw [hsort, Option.some_or] at hfield
          exact hname (.inl (by rw [hsort]; exact hfield))
      · cases q.sortBy <;> decide
    · cases hs

theorem SearchQuery.plain_frame {q : SearchQuery} (countsRows : Bool)
    (hn : ∀ s ∈ (Query.search q).names, Plain s) :
    Plain (q.opening countsRows) ∧ Plain q.closing := by
  have htables : ∀ s ∈ q.tables, Plain s := fun s hs => hn s (by simp [Query.names, hs])
  have hfields : ∀ s ∈ q.includeFields, Plain s := fun s hs => hn s (by simp [Query.names, hs])
  have hselected : Plain (q.selected countsRows) := by
    rw [selected, plain_append]
    refine ⟨within_joined (by decide) hfields, ?_⟩
    cases countsRows <;> decide
  constructor
  · simp only [opening, plain_append]
    exact ⟨⟨⟨by decide, hselected⟩, by decide⟩, within_joined (by decide) htables⟩
  · simp only [closing, plain_append]
    refine ⟨⟨⟨?_, by decide⟩, plain_toString _⟩, ?_⟩
    · split
      · decide
      · rw [plain_append]
        exact ⟨by decide, within_led (by decide) (plain_orderTokens hn)⟩
    · cases q.offset with
      | none => decide
      | some n =>
        rw [Option.map_some, Option.getD_some, plain_append]
        exact ⟨by decide, plain_toString n⟩

theorem TermQuery.plain_frame {q : TermQuery} {field : String}
    (hn : ∀ s ∈ (Query.term q).names, Plain s) (hf : Plain field) :
    Plain (q.opening field) ∧ Plain (q.closing field) := by
  have htables : ∀ s ∈ q.tables, Plain s := fun s hs => hn s (by simp [Query.names, hs])
  have hcount := plain_termCount field
  constructor
  · simp only [opening, plain_append]
    exact ⟨⟨⟨⟨⟨by decide, hf⟩, by decide⟩, hcount⟩, by decide⟩, within_joined (by decide) htables⟩
  · simp only [closing, plain_append]
    refine ⟨⟨⟨⟨⟨by decide, hf⟩, by decide⟩, hcount⟩, by decide⟩, ?_⟩
    cases q.aggregationSize with
    | none => decide
    | some n =>
      rw [Option.map_some, Option.getD_some, plain_append]
      exact ⟨by decide, plain_toString n⟩

namespace RangeQuery

variable {q : RangeQuery} {field table : String}

theorem plain_boundsOpening (hf : Plain field) (ht : Plain table) :
    Plain (q.boundsOpening field table) := by
  have hcolumns : ∀ s ∈ q.boundColumns field, Plain s := by
    intro s hs
    have hc : s = "MIN(" ++ field ++ ") AS " ++ Column.least ∨
        s = "MAX(" ++ field ++ ") AS " ++ Column.greatest := by
      unfold boundColumns at hs
      rcases List.mem_append.mp hs with hs | hs
      · split at hs
        · exact .inl (List.mem_singleton.mp hs)
        · cases hs
      · split at hs
        · exact .inr (List.mem_singleton.mp hs)
        · cases hs
    rcases hc with rfl | rfl
    · simp only [plain_append]
      exact ⟨⟨⟨by decide, hf⟩, by decide⟩, by decide⟩
    · simp only [plain_append]
      exact ⟨⟨⟨by decide, hf⟩, by decide⟩, by decide⟩
  simp only [boundsOpening, quotedTable, plain_append]
  exact ⟨⟨⟨by decide, within_joined (by decide) hcolumns⟩, by decide⟩, ⟨by decide, ht⟩, by decide⟩

theorem plain_joinedBounds : ∀ s ∈ q.joinedBounds, Plain s := by
  unfold joinedBounds
  cases q.wants .min <;> cases q.wants .max <;> decide

theorem plain_bucketNumber (hf : Plain field) (width : Binary64) :
    Plain (bucketNumber field width) := by
  simp only [bucketNumber, plain_append]
  exact ⟨⟨⟨⟨by decide, hf⟩, by decide⟩, plain_widthLiteral width⟩, by decide⟩

theorem plain_bucketsOpening (hf : Plain field) (ht : Plain table) (width : Binary64) :
    Plain (q.bucketsOpening field table width) := by
  simp only [bucketsOpening, quotedTable, plain_append]
  refine ⟨⟨⟨⟨by decide, within_joined (by decide) fun s hs => ?_⟩, by decide⟩, ⟨by decide, ht⟩,
    by decide⟩, ?_⟩
  · simp only [List.cons_append, List.nil_append, List.mem_cons] at hs
    rcases hs with rfl | rfl | hs
    · simp only [plain_append]
      exact ⟨⟨⟨⟨plain_bucketNumber hf width, by decide⟩, plain_widthLiteral width⟩, by decide⟩,
        by decide⟩
    · decide
    · exact plain_joinedBounds s hs
  · cases q.wantsBounds <;> decide

theorem plain_bucketsClosing (hf : Plain field) (width : Binary64) :
    Plain (q.bucketsClosing field width) := by
  simp only [bucketsClosing, plain_append]
  refine ⟨⟨⟨by decide, within_joined (by decide) fun s hs => ?_⟩, by decide⟩, by decide⟩
  rcases List.mem_cons.mp hs with rfl | hs
  · exact plain_bucketNumber hf width
  · exact plain_joinedBounds s hs

end RangeQuery

namespace Query

/-- **No part of a frame has a slot** if no name in it has a dollar sign. -/
theorem plain_frame {q : Query} (hw : ∀ w, q ≠ .written w) (hn : ∀ s ∈ q.names, Plain s)
    (countsRows : Bool) : ∀ s ∈ q.frame countsRows, Plain s := by
  cases q with
  | written w => exact absurd rfl (hw w)
  | search q =>
    obtain ⟨ho, hc⟩ := SearchQuery.plain_frame countsRows hn
    simp [frame, ho, hc]
  | term q =>
    cases hf : q.dataFields with
    | nil => simp [frame, hf]
    | cons field others =>
      obtain ⟨ho, hc⟩ := TermQuery.plain_frame hn (hn field (by simp [names, hf]))
      simp [frame, hf, ho, hc]
  | range q =>
    cases hf : q.dataFields with
    | nil => simp [frame, hf]
    | cons field others =>
      cases ht : q.tables with
      | nil => simp [frame, hf, ht]
      | cons table rest =>
        have hfield : Plain field := hn field (by simp [names, hf])
        have htable : Plain table := hn table (by simp [names, ht])
        have hbounds : Plain (q.boundsOpening field table) :=
          RangeQuery.plain_boundsOpening hfield htable
        have hbuckets := fun x : Binary64 =>
          RangeQuery.plain_bucketsOpening (q := q) hfield htable x
        have hclosing := fun x : Binary64 => RangeQuery.plain_bucketsClosing (q := q) hfield x
        have hwith : Plain ("WITH " ++ Column.boundsRelation ++ " AS (") := by decide
        have hclose : Plain ") " := by decide
        simp only [frame, hf, ht, RangeQuery.frameOn]
        split
        · split
          · simp only [List.mem_cons, List.not_mem_nil, or_false]
            rintro s (rfl | rfl | rfl)
            · exact plain_append.mpr ⟨hwith, hbounds⟩
            · exact plain_append.mpr ⟨hclose, hbuckets _⟩
            · exact hclosing _
          · simp only [List.mem_cons, List.not_mem_nil, or_false]
            rintro s (rfl | rfl)
            · exact hbuckets _
            · exact hclosing _
        · simp only [List.mem_cons, List.not_mem_nil, or_false]
          rintro s (rfl | rfl)
          · exact hbounds
          · decide

/-- **What follows a condition lengthens no slot** of it. -/
theorem clear_frame (q : Query) (countsRows : Bool) : ∀ s ∈ (q.frame countsRows).tail, Clear s := by
  have hlead {s : String} (t : String) (hs : Clear s) (hne : s ≠ "") : Clear (s ++ t) :=
    clear_append_of_ne_empty hs hne t
  cases q with
  | written w => simp [frame]
  | search q =>
    have hclosing : Clear q.closing := by
      unfold SearchQuery.closing
      split
      · exact hlead _ (hlead _ (by decide) (by decide)) (by simp)
      · refine hlead _ (hlead _ (hlead _ (hlead _ ?_ ?_) (by simp)) (by simp)) (by simp)
        · decide
        · decide
    simpa [frame] using hclosing
  | term q =>
    cases hf : q.dataFields with
    | nil => simp [frame, hf]
    | cons field others =>
      have hclosing : Clear (q.closing field) := by
        unfold TermQuery.closing
        simp only [String.append_assoc]
        exact hlead _ (by decide) (by decide)
      simpa [frame, hf] using hclosing
  | range q =>
    cases hf : q.dataFields with
    | nil => simp [frame, hf]
    | cons field others =>
      cases ht : q.tables with
      | nil => simp [frame, hf, ht]
      | cons table rest =>
        have hclosing : ∀ width, Clear (q.bucketsClosing field width) := by
          intro width
          unfold RangeQuery.bucketsClosing
          simp only [String.append_assoc]
          exact hlead _ (by decide) (by decide)
        simp only [frame, hf, ht, RangeQuery.frameOn]
        split
        · split
          · simp only [List.tail_cons, List.mem_cons, List.not_mem_nil, or_false]
            rintro s (rfl | rfl)
            · exact hlead _ (by decide) (by decide)
            · exact hclosing _
          · simp only [List.tail_cons, List.mem_cons, List.not_mem_nil, or_false]
            rintro s rfl
            exact hclosing _
        · simp only [List.tail_cons, List.mem_cons, List.not_mem_nil, or_false]
          rintro s rfl
          decide

end Query

end QueryBatch
