import QueryBatch.Proofs.ConditionSlots
import QueryBatch.Proofs.PlainFrame

/-! # Placeholders and parameters match

A statement is read back: its slots are numbered from one to the number of its parameters, and each
number comes up equally often. With values in place of the slots the statement is the one that would
have been written with these values in the text.

* `Query.slots_tokensWith`, `Query.fill_tokensWith`: the computed condition read back.
* `Query.copies`: how often each number comes up.
* `Numbered`: the numbers of slots. `Descriptor.numbered_of_compile`: **placeholders and parameters
  match**.
-/

namespace QueryBatch

open Text Outcome

/-! ### The slots of a condition -/

theorem slots_writeWith (b : Bound) (k : Nat) :
    slots (b.writeWith fun _ => Params.placeholder k) = (b.text?.map fun _ => k).toList := by
  cases b with
  | number n => exact slots_of_plain (plain_of_within n.within_text)
  | text s => exact slots_placeholder k

theorem fill_writeWith (f : Nat → String) (b : Bound) (k : Nat) :
    fill f (b.writeWith fun _ => Params.placeholder k) = b.writeWith fun _ => f k := by
  cases b with
  | number n => exact fill_of_plain (plain_of_within n.within_text)
  | text s => exact fill_placeholder k

theorem map_fill_writeWith (f : Nat → String) (b : Option Bound) (k : Nat) :
    (b.map (Bound.writeWith fun _ => Params.placeholder k)).map (fill f) =
      b.map (Bound.writeWith fun _ => f k) := by
  rw [Option.map_map]
  exact congrArg (b.map ·) (funext fun b => fill_writeWith f b k)

theorem map_fill_placeholders {α : Type} (f : Nat → String) (number : Nat → Nat) (l : List α) :
    (l.mapIdx fun i _ => Params.placeholder (number i)).map (fill f) =
      l.mapIdx fun i _ => f (number i) :=
  List.ext_getElem (by simp) fun i _ _ => by simp

theorem slots_rangeText {field : String} (hf : Plain field) (low high : Option String) :
    slots (rangeText field low high) =
      (low.map slots).getD [] ++ (high.map slots).getD [] := by
  have hand : ∀ s, Clear (" and " ++ s) := fun s =>
    clear_append_of_ne_empty (by decide) (by decide) s
  cases low with
  | none =>
    cases high with
    | none => rfl
    | some t =>
      rw [rangeText, slots_append_of_plain (plain_append.mpr ⟨hf, by decide⟩)]
      rfl
  | some s =>
    cases high with
    | none =>
      rw [rangeText, slots_append_of_plain (plain_append.mpr ⟨hf, by decide⟩)]
      simp
    | some t =>
      rw [rangeText, String.append_assoc, String.append_assoc,
        slots_append_of_plain (plain_append.mpr ⟨hf, by decide⟩), slots_append (hand t),
        slots_append_of_plain (by decide)]
      rfl

theorem fill_rangeText {field : String} (hf : Plain field) (f : Nat → String)
    (low high : Option String) :
    fill f (rangeText field low high) = rangeText field (low.map (fill f)) (high.map (fill f)) := by
  have hand : ∀ s, Clear (" and " ++ s) := fun s =>
    clear_append_of_ne_empty (by decide) (by decide) s
  cases low with
  | none =>
    cases high with
    | none => exact fill_of_plain (show Plain "" by decide)
    | some t =>
      rw [rangeText, fill_append_of_plain (plain_append.mpr ⟨hf, by decide⟩)]
      rfl
  | some s =>
    cases high with
    | none =>
      rw [rangeText, fill_append_of_plain (plain_append.mpr ⟨hf, by decide⟩)]
      rfl
    | some t =>
      rw [rangeText, String.append_assoc, String.append_assoc,
        fill_append_of_plain (plain_append.mpr ⟨hf, by decide⟩), fill_append (hand t),
        fill_append_of_plain (by decide), ← String.append_assoc, ← String.append_assoc]
      rfl

theorem flatMap_slots_placeholders {α : Type} (l : List α) :
    (l.mapIdx fun i _ => Params.placeholder (i + 1)).flatMap slots = List.range' 1 l.length := by
  have hl : l.mapIdx (fun i _ => Params.placeholder (i + 1)) =
      (List.range l.length).map fun i => Params.placeholder (i + 1) :=
    List.ext_getElem (by simp) fun i _ _ => by simp
  rw [hl, List.flatMap_map, List.range'_eq_map_range, List.map_eq_flatMap]
  refine List.flatMap_congr fun i _ => ?_
  rw [slots_placeholder, Nat.add_comm]

namespace Query

/-- How often each slot stands in the computed condition: in a search once for each column. -/
def copiesInCondition : Query → Nat
  | .search q => q.dataFields.length
  | .range _ => 1
  | .written _ | .term _ => 0

/-- **The slots of a computed condition**: as many as there are bound values, in order, and all of
them again for each further column. -/
theorem slots_tokensWith {q : Query} (hn : ∀ s ∈ q.names, Plain s) {t : List String × Params}
    (ht : q.tokens = .ok t) :
    (q.tokensWith fun k _ => Params.placeholder k).flatMap slots =
      (List.replicate q.copiesInCondition (List.range' 1 q.bound.length)).flatten := by
  cases q with
  | written | term => rfl
  | search q =>
    cases hv : q.value with
    | none => simp [tokensWith, bound, hv]
    | some m =>
      have ho : slots q.connective.operator = [] := by
        cases q.connective <;> exact slots_of_plain (by decide)
      have hfields : ∀ f ∈ q.dataFields, slots f = [] := fun f hf =>
        slots_of_plain (hn f (by simp [names, hf]))
      have hone : ∀ (f : String) (patterns : List String), slots f = [] →
          (patterns.flatMap fun p => slots f ++ slots p) = patterns.flatMap slots := by
        intro f patterns hf
        rw [hf]
        rfl
      simp only [tokensWith, hv]
      rw [flatMap_matchTokens ho (slots_of_plain (by decide))]
      generalize hp : (m.scalars.map pattern).mapIdx (fun i _ => Params.placeholder (i + 1)) =
        patterns
      have hpatterns : patterns.flatMap slots = List.range' 1 (bound (.search q)).length := by
        rw [← hp, flatMap_slots_placeholders, bound, hv]
        rfl
      rw [copiesInCondition, ← hpatterns]
      generalize q.dataFields = fields at hfields
      induction fields with
      | nil => rfl
      | cons f r ih =>
        rw [List.flatMap_cons, hone f _ (hfields f List.mem_cons_self),
          ih fun f hf => hfields f (List.mem_cons_of_mem _ hf)]
        rfl
  | range q =>
    cases hv : q.value with
    | none => simp [tokensWith, bound, hv]
    | some r =>
      cases hf : q.dataFields with
      | nil => simp [Query.tokens, hv, hf, Filter.tokens] at ht
      | cons field others =>
        have hfield : Plain field := hn field (by simp [names, hf])
        simp only [tokensWith, hv, hf]
        rw [List.flatMap_singleton, slots_rangeText hfield]
        obtain ⟨start, stop⟩ := r
        rcases start with _ | (_ | _) <;> rcases stop with _ | (_ | _) <;>
          simp [slots_writeWith, Bound.text?, bound, hv, Range.texts, Range.stopSlot,
            copiesInCondition, List.range'_succ]

/-- **Text in the slots of a computed condition.** -/
theorem fill_tokensWith {q : Query} (hn : ∀ s ∈ q.names, Plain s) (f : Nat → String) :
    (q.tokensWith fun k _ => Params.placeholder k).map (fill f) = q.tokensWith fun k _ => f k := by
  cases q with
  | written | term => rfl
  | search q =>
    cases hv : q.value with
    | none => simp [tokensWith, hv]
    | some m =>
      have ho : fill f q.connective.operator = q.connective.operator := by
        cases q.connective <;> exact fill_of_plain (by decide)
      have hfields : ∀ g ∈ q.dataFields, fill f g = g := fun g hg =>
        fill_of_plain (hn g (by simp [names, hg]))
      simp only [tokensWith, hv]
      rw [map_matchTokens ho (fill_of_plain (by decide)) hfields, map_fill_placeholders]
  | range q =>
    cases hv : q.value with
    | none => simp [tokensWith, hv]
    | some r =>
      cases hf : q.dataFields with
      | nil => simp [tokensWith, hv, hf]
      | cons field others =>
        have hfield : Plain field := hn field (by simp [names, hf])
        simp only [tokensWith, hv, hf]
        rw [List.map_singleton, fill_rangeText hfield, map_fill_writeWith, map_fill_writeWith]

end Query

/-! ### The slots of a statement -/

theorem plain_of_notBlank? {s w : String} (hs : Plain s) (h : notBlank? s = some w) : Plain w := by
  simp only [notBlank?] at h
  split at h
  · cases h
  · cases h
    exact within_trim hs

theorem clear_and_append (s : String) : Clear (") AND (" ++ s) :=
  clear_append_of_ne_empty (by decide) (by decide) s

theorem clear_whereClause (condition : Option String) : Clear (whereClause condition) := by
  cases condition with
  | none => show Clear ""; decide
  | some c => exact clear_append_of_ne_empty (by decide) (by decide) c

theorem slots_whereClause {computed written : Option String} (hc : ∀ c ∈ computed, c ≠ "")
    (hw : ∀ w ∈ written.bind notBlank?, Plain w) :
    slots (whereClause (mergeConditions computed written)) = (computed.map slots).getD [] := by
  cases computed with
  | none =>
    unfold mergeConditions
    generalize written.bind notBlank? = w at hw
    cases w with
    | none => rfl
    | some t => exact slots_of_plain (plain_append.mpr ⟨by decide, hw t rfl⟩)
  | some c =>
    rw [mergeConditions_some (hc c rfl)]
    generalize written.bind notBlank? = w at hw
    cases w with
    | none => exact slots_append_of_plain (by decide)
    | some t =>
      have htail : Plain (") AND (" ++ (t ++ ")")) :=
        plain_append.mpr ⟨by decide, plain_append.mpr ⟨hw t rfl, by decide⟩⟩
      simp only [Option.elim_some, whereClause, String.append_assoc]
      rw [slots_append_of_plain (by decide), slots_append_of_plain (by decide),
        slots_append (clear_and_append _), slots_of_plain htail, List.append_nil]
      rfl

theorem fill_whereClause {computed written : Option String} {f : Nat → String}
    (hc : ∀ c ∈ computed, c ≠ "" ∧ fill f c ≠ "")
    (hw : ∀ w ∈ written.bind notBlank?, Plain w) :
    fill f (whereClause (mergeConditions computed written)) =
      whereClause (mergeConditions (computed.map (fill f)) written) := by
  cases computed with
  | none =>
    unfold mergeConditions
    generalize written.bind notBlank? = w at hw
    cases w with
    | none => exact fill_of_plain (show Plain "" by decide)
    | some t => exact fill_of_plain (plain_append.mpr ⟨by decide, hw t rfl⟩)
  | some c =>
    obtain ⟨hne, hne'⟩ := hc c rfl
    rw [Option.map_some, mergeConditions_some hne, mergeConditions_some hne']
    generalize written.bind notBlank? = w at hw
    cases w with
    | none => exact fill_append_of_plain (by decide)
    | some t =>
      have htail : Plain (") AND (" ++ (t ++ ")")) :=
        plain_append.mpr ⟨by decide, plain_append.mpr ⟨hw t rfl, by decide⟩⟩
      simp only [Option.elim_some, whereClause, String.append_assoc]
      rw [fill_append_of_plain (by decide), fill_append_of_plain (by decide),
        fill_append (clear_and_append _), fill_of_plain htail]

/-- How often each slot stands in the statement of a query. -/
def Query.copies (q : Query) : Nat := q.conditionCount * q.copiesInCondition

theorem Query.copies_ne_zero {q : Query} {t : List String × Params} (ht : q.tokens = .ok t)
    (hb : q.bound ≠ []) : q.copies ≠ 0 := by
  cases q with
  | written | term => exact absurd rfl hb
  | search q =>
    cases hv : q.value with
    | none => simp [bound, hv] at hb
    | some m =>
      cases hf : q.dataFields with
      | nil => simp [tokens, hv, hf, Filter.tokens] at ht
      | cons field others => simp [copies, conditionCount, copiesInCondition, hf]
  | range q =>
    simp only [copies, conditionCount, copiesInCondition]
    split
    · decide
    · decide

theorem flatten_replicate_flatten {α : Type} (m n : Nat) (l : List α) :
    (List.replicate m (List.replicate n l).flatten).flatten =
      (List.replicate (m * n) l).flatten := by
  induction m with
  | zero => simp
  | succ m ih =>
    rw [List.replicate_succ, List.flatten_cons, ih, Nat.succ_mul, Nat.add_comm, List.replicate_add,
      List.flatten_append]

/-- **Numbered text**: its slots are the numbers from one to some number in order, all of them as
often as there are copies. So each number comes up, no other one does, and none comes up before a
smaller one. -/
structure Numbered (sql : String) (copies count : Nat) : Prop where
  order : slots sql = (List.replicate copies (List.range' 1 count)).flatten
  first : (slots sql).eraseDups = List.range' 1 count
  often : ∀ k, 1 ≤ k → k ≤ count → (slots sql).count k = copies

theorem count_flatten_replicate (n k : Nat) (l : List Nat) :
    (List.replicate n l).flatten.count k = n * l.count k := by
  induction n with
  | zero => simp
  | succ n ih =>
    rw [List.replicate_succ, List.flatten_cons, List.count_append, ih, Nat.succ_mul, Nat.add_comm]

theorem eraseDups_of_nodup {l : List Nat} (h : l.Nodup) : l.eraseDups = l := by
  induction l with
  | nil => rfl
  | cons a r ih =>
    have ha := (List.nodup_cons.mp h).1
    have hfilter : r.filter (fun b => !b == a) = r := by
      refine List.filter_eq_self.mpr fun b hb => ?_
      have hne : b ≠ a := fun hba => ha (hba ▸ hb)
      simpa using hne
    rw [List.eraseDups_cons, hfilter, ih (List.nodup_cons.mp h).2]

theorem eraseDups_flatten_replicate (n : Nat) {l : List Nat} (h : l.Nodup) :
    (List.replicate (n + 1) l).flatten.eraseDups = l := by
  have hall : (List.replicate n l).flatten.removeAll l = [] := by
    refine List.filter_eq_nil_iff.mpr fun k hk => ?_
    obtain ⟨m, hm, hk⟩ := List.mem_flatten.mp hk
    rw [List.eq_of_mem_replicate hm] at hk
    simp [hk]
  rw [List.replicate_succ, List.flatten_cons, List.eraseDups_append, hall, eraseDups_of_nodup h]
  simp

theorem numbered_of_slots {sql : String} {copies count : Nat}
    (h : slots sql = (List.replicate copies (List.range' 1 count)).flatten)
    (hc : count ≠ 0 → copies ≠ 0) : Numbered sql copies count := by
  have hnodup : (List.range' 1 count).Nodup := List.nodup_range'
  refine ⟨h, ?_, fun k h1 hk => ?_⟩
  · rw [h]
    cases copies with
    | zero =>
      have hzero : count = 0 := by
        by_contra hne
        exact hc hne rfl
      subst hzero
      rfl
    | succ n => exact eraseDups_flatten_replicate n hnodup
  · have hmem : k ∈ List.range' 1 count := List.mem_range'_1.mpr (by omega)
    have hone : (List.range' 1 count).count k = 1 := by
      rw [hnodup.count, if_pos hmem]
    rw [h, count_flatten_replicate, hone, Nat.mul_one]

namespace Descriptor

variable {d : Descriptor} {embedded : Option (List Binary64)} {defaultSize : Nat}

theorem ResolvesTo.slots_conditionOf {q : Query} (h : d.ResolvesTo embedded defaultSize q)
    {t : List String × Params} (ht : q.tokens = .ok t) (hn : ∀ s ∈ q.names, Plain s) :
    ((conditionOf (q.tokensWith fun k _ => Params.placeholder k)).map slots).getD [] =
      (List.replicate q.copiesInCondition (List.range' 1 q.bound.length)).flatten := by
  rw [← Query.slots_tokensWith hn ht, (h.conditionOf_tokensWith ht _).1]
  cases hv : q.isFiltered with
  | false => rw [Query.tokensWith_of_not_isFiltered hv]; rfl
  | true => exact slots_joined_blank _

theorem ResolvesTo.fill_conditionOf {q : Query} (h : d.ResolvesTo embedded defaultSize q)
    {t : List String × Params} (ht : q.tokens = .ok t) (hn : ∀ s ∈ q.names, Plain s)
    {f : Nat → String} {slot : Nat → Scalar → String}
    (hf : ∀ i value, q.bound[i]? = some value → f (i + 1) = slot (i + 1) value) :
    (conditionOf (q.tokensWith fun k _ => Params.placeholder k)).map (fill f) =
      conditionOf (q.tokensWith slot) := by
  have htokens : (q.tokensWith fun k _ => Params.placeholder k).map (fill f) =
      q.tokensWith slot :=
    (Query.fill_tokensWith hn f).trans (Query.tokensWith_congr hf)
  rw [(h.conditionOf_tokensWith ht _).1, (h.conditionOf_tokensWith ht _).1, ← htokens]
  cases q.isFiltered with
  | false => rfl
  | true => exact congrArg some (fill_joined_blank _)

theorem ResolvesTo.plain_names {q : Query} (h : d.ResolvesTo embedded defaultSize q)
    (hn : ∀ name ∈ d.names, '$' ∉ name.toList) : ∀ s ∈ q.names, Plain s := by
  intro s hs
  rcases h.mem_names hs with rfl | hs
  · decide
  · exact plain_of_not_mem (hn s hs)

theorem ResolvesTo.plain_written {q : Query} (h : d.ResolvesTo embedded defaultSize q)
    (hc : ∀ c ∈ d.condition, '$' ∉ c.toList) : ∀ w ∈ q.written?.bind notBlank?, Plain w := by
  have hcondition : ∀ c ∈ q.written?, Plain c := by
    cases h with
    | written => nofun
    | search | term | range => exact fun c hm => plain_of_not_mem (hc c hm)
  intro w hw
  obtain ⟨c, hm, hblank⟩ := Option.bind_eq_some_iff.mp hw
  exact plain_of_notBlank? (hcondition c hm) hblank

/-- **Placeholders and parameters match.** Let no name of a descriptor and nothing behind its
`where` have a dollar sign, and let its statement not be written by hand. Then the slots of the
statement are numbered from one to the number of its parameters, and with values in its slots it is
the statement that has these values in its text. -/
theorem numbered_of_compile {countsRows : Bool} {r : String × Compiled} {s : Statement}
    (hw : d.statement? = none) (hn : ∀ name ∈ d.names, '$' ∉ name.toList)
    (hc : ∀ c ∈ d.condition, '$' ∉ c.toList)
    (h : d.compile embedded defaultSize countsRows = .ok r) (hs : r.2.statement = some s) :
    ∃ q, d.resolve embedded defaultSize = .ok ⟨d.name, q⟩ ∧
      Numbered s.sql q.copies s.params.length ∧
      ∀ literal : Scalar → String,
        fill (fun k => ((s.params[k - 1]?).map literal).getD "") s.sql =
          q.around countsRows (mergeConditions
            (conditionOf (q.tokensWith fun _ value => literal value)) q.written?) := by
  obtain ⟨-, q, hr, hq, hcompile⟩ := compile_eq_ok h
  obtain ⟨tokens, params, ht, -⟩ := Query.compile_eq_ok hcompile hs
  obtain ⟨hsql, hparams⟩ := Query.statement_eq hcompile hs
  have hnames := hq.plain_names hn
  have hwritten := hq.plain_written hc
  have hnot : ∀ w, q ≠ .written w := by
    rintro w rfl
    cases hq with
    | written hsome => rw [hw] at hsome; cases hsome
  have hframe := Query.plain_frame hnot hnames countsRows
  have hclear := Query.clear_frame q countsRows
  refine ⟨q, hr, numbered_of_slots ?_ fun hne => ?_, fun literal => ?_⟩
  · rw [hsql, hparams, Query.around, slots_joined (clear_whereClause _) hframe hclear,
      slots_whereClause (hq.conditionOf_tokensWith ht _).2 hwritten,
      Query.length_frame hcompile hs, hq.slots_conditionOf ht hnames, Nat.add_sub_cancel,
      flatten_replicate_flatten]
    rfl
  · rw [hparams] at hne
    exact Query.copies_ne_zero ht fun hnil => hne (by rw [hnil]; rfl)
  · generalize hf : (fun k => ((s.params[k - 1]?).map literal).getD "") = f
    have hbound : ∀ i value, q.bound[i]? = some value → f (i + 1) = literal value := by
      intro i value hi
      rw [← hf]
      simp [hparams, hi]
    have hcondition : (conditionOf (q.tokensWith fun k _ => Params.placeholder k)).map (fill f) =
        conditionOf (q.tokensWith fun _ value => literal value) :=
      hq.fill_conditionOf ht hnames hbound
    have hne : ∀ c ∈ conditionOf (q.tokensWith fun k _ => Params.placeholder k),
        c ≠ "" ∧ fill f c ≠ "" := by
      intro c hm
      refine ⟨(hq.conditionOf_tokensWith ht _).2 c hm, ?_⟩
      refine (hq.conditionOf_tokensWith ht fun _ value => literal value).2 _ ?_
      rw [← hcondition]
      exact Option.mem_map_of_mem _ hm
    rw [hsql, Query.around, fill_joined (clear_whereClause _) hframe hclear,
      fill_whereClause hne hwritten, hcondition]
    rfl

/-- A histogram with bounds of the years between two texts. -/
def histogram : Descriptor :=
  { (default : Descriptor) with
    id := some "q", tables := some (.one "books"), kind := some .range
    dataFields := some (.one "year"), aggregations := some [.min, .histogram], interval := some .one
    value := some (.object [("end", .string "2000"), ("start", .string "1990")]) }

/-- The statement of `histogram`, in which each placeholder stands twice. -/
def histogramSql : Statement :=
  ⟨"WITH OverallStats AS (SELECT MIN(year) AS rs__overall_min_year FROM \"books\" " ++
    "WHERE year between $1 and $2) SELECT FLOOR(year / 1) * 1 AS rs__key, " ++
    "COUNT(*) AS rs__doc_count, o.rs__overall_min_year FROM \"books\", OverallStats o " ++
    "WHERE year between $1 and $2 GROUP BY FLOOR(year / 1), o.rs__overall_min_year " ++
    "ORDER BY rs__key", [.text "1990", .text "2000"]⟩

theorem numbered_of_histogram :
    histogram.statement? = none ∧ (∀ name ∈ histogram.names, '$' ∉ name.toList) ∧
    Numbered histogramSql.sql 2 2 := by
  have hw : histogram.statement? = none := by decide
  have hn : ∀ name ∈ histogram.names, '$' ∉ name.toList := by decide
  have hc : ∀ c ∈ histogram.condition, '$' ∉ c.toList := by decide
  have h : histogram.compile none 10 false = .ok ("q", ⟨some histogramSql,
      .range ⟨some "year", some Column.least, none, true, false⟩⟩) := by
    decide +kernel
  have htwice : (histogram.resolve none 10).map (fun n => n.query.copies) = .ok 2 := by
    decide +kernel
  obtain ⟨q, hr, hnumbered, -⟩ := numbered_of_compile hw hn hc h rfl
  rw [hr] at htwice
  have hcopies : q.copies = 2 := Except.ok.inj htwice
  rw [hcopies] at hnumbered
  exact ⟨hw, hn, hnumbered⟩

end Descriptor

end QueryBatch
