import Mathlib.Data.List.Basic
import QueryBatch.Proofs.Frame
import QueryBatch.Proofs.Resolution

/-! # Conditions with slots

The computed part of a condition is text with *slots*: one for each scalar of a match, one for each
bound of a range that is a text. Numbers of a range are text of their own. A statement has
placeholders in its slots and the values as parameters; the same condition with other text in its
slots is what it is compared with.

* `Query.bound`: the values that a query binds, in order.
* `Query.tokensWith`: its computed condition with any text in the slots.
* `Query.tokens_eq_ok`: **the computed condition of a query** has placeholders in its slots, and the
  bound values are its parameters. `Query.statement_eq`: so has its statement.
* `flatMap_matchTokens`, `map_matchTokens`: going through the words of a match.
* `Query.tokensWith_congr`: **a slot is the slot of the bound value with its number**.
* `Descriptor.ResolvesTo.conditionOf_tokensWith`: a computed condition is not empty.
-/

namespace QueryBatch

/-! ### Conditions with slots -/

/-- The text of a bound, if it is one. -/
def Bound.text? : Bound → Option String
  | .number _ => none
  | .text s => some s

/-- A bound with a text in its slot, if it has one. -/
def Bound.writeWith (slot : Scalar → String) : Bound → String
  | .number n => n.text
  | .text s => slot (.text s)

/-- The texts of a range, in order. -/
def Range.texts (r : Range) : List String :=
  (r.start.bind Bound.text?).toList ++ (r.stop.bind Bound.text?).toList

/-- The number of the slot of the end of a range. -/
def Range.stopSlot (r : Range) : Nat := (r.start.bind Bound.text?).toList.length + 1

/-- The condition that a column lies between two bounds that are already written. -/
def rangeText (field : String) : Option String → Option String → String
  | some low, some high => field ++ " between " ++ low ++ " and " ++ high
  | some low, none => field ++ " > " ++ low
  | none, some high => field ++ " < " ++ high
  | none, none => ""

/-- The condition that a column matches one of some patterns that are already written. -/
def matchTokens (connective : Connective) (fields patterns : List String) : List String :=
  connect connective (fields.flatMap fun f => patterns.map fun p => [f, "LIKE", p])

namespace Query

/-- **The values that a query binds**, in order. -/
def bound : Query → List Scalar
  | .search q => ((q.value.map Match.scalars).getD []).map pattern
  | .range q => ((q.value.map Range.texts).getD []).map .text
  | .written _ | .term _ => []

/-- The value of a query selects rows. -/
def isFiltered : Query → Bool
  | .search q => q.value.isSome
  | .range q => q.value.isSome
  | .written _ | .term _ => false

/-- **The computed condition of a query** with text in its slots; `slot` is given the number of the
slot and the value for it. -/
def tokensWith (slot : Nat → Scalar → String) : Query → List String
  | .search q =>
    match q.value with
    | none => []
    | some m =>
      matchTokens q.connective q.dataFields
        ((m.scalars.map pattern).mapIdx fun i s => slot (i + 1) s)
  | .range q =>
    match q.value, q.dataFields with
    | some r, field :: _ =>
      [rangeText field (r.start.map (Bound.writeWith (slot 1)))
        (r.stop.map (Bound.writeWith (slot r.stopSlot)))]
    | _, _ => []
  | .written _ | .term _ => []

end Query

/-- **The condition of a range** has the next placeholders in its slots, and its texts are bound
behind what is bound already. -/
theorem rangeCondition_eq_rangeText (field : String) (r : Range) (params : Params) :
    rangeCondition field r params =
      (rangeText field
        (r.start.map (Bound.writeWith fun _ => Params.placeholder (params.size + 1)))
        (r.stop.map (Bound.writeWith fun _ => Params.placeholder (params.size + r.stopSlot))),
      ⟨params.bound ++ r.texts.map .text⟩) := by
  obtain ⟨start, stop⟩ := r
  rcases start with _ | (_ | _) <;> rcases stop with _ | (_ | _) <;>
    simp [rangeCondition, rangeText, renderBound, Params.bind, Params.size, Range.texts,
      Range.stopSlot, Bound.text?, Bound.writeWith]

theorem rangeCondition_eq (field : String) (r : Range) :
    rangeCondition field r .empty =
      (rangeText field (r.start.map (Bound.writeWith fun _ => Params.placeholder 1))
        (r.stop.map (Bound.writeWith fun _ => Params.placeholder r.stopSlot)),
      ⟨r.texts.map .text⟩) := by
  simpa [Params.empty, Params.size] using rangeCondition_eq_rangeText field r .empty

/-- **The computed condition of a query** has placeholders in its slots, and its parameters are the
bound values. -/
theorem Query.tokens_eq_ok {q : Query} {tokens : List String} {params : Params}
    (h : q.tokens = .ok (tokens, params)) :
    tokens = q.tokensWith (fun k _ => Params.placeholder k) ∧ params.bound = q.bound := by
  cases q with
  | written q => cases h; exact ⟨rfl, rfl⟩
  | term q => cases h; exact ⟨rfl, rfl⟩
  | search q =>
    cases hv : q.value with
    | none =>
      simp only [Query.tokens, hv, Option.map_none, Filter.tokens] at h
      cases h
      simp [tokensWith, bound, hv, Params.empty]
    | some m =>
      cases hf : q.dataFields with
      | nil => simp [Query.tokens, hv, hf, Filter.tokens] at h
      | cons field others =>
        simp only [Query.tokens, hv, hf, Option.map_some, Filter.tokens, Filter.conditions] at h
        cases h
        simp [tokensWith, bound, hv, hf, matchTokens, Params.fst_bindAll, Params.empty,
          Params.size]
  | range q =>
    cases hv : q.value with
    | none =>
      simp only [Query.tokens, hv, Option.map_none, Filter.tokens] at h
      cases h
      simp [tokensWith, bound, hv, Params.empty]
    | some r =>
      cases hf : q.dataFields with
      | nil => simp [Query.tokens, hv, hf, Filter.tokens] at h
      | cons field others =>
        simp only [Query.tokens, hv, hf, Option.map_some, List.take_succ_cons, List.take_zero,
          Filter.tokens, Filter.conditions, rangeCondition_eq, connect] at h
        cases h
        simp [tokensWith, bound, hv, hf]

/-- **The statement of a compiled query**: it stands around its condition, with placeholders in the
slots and the bound values as parameters. -/
theorem Query.statement_eq {q : Query} {countsRows : Bool} {c : Compiled} {s : Statement}
    (h : q.compile countsRows = .ok c) (hs : c.statement = some s) :
    s.sql = q.around countsRows (mergeConditions
      (conditionOf (q.tokensWith fun k _ => Params.placeholder k)) q.written?) ∧
    s.params = q.bound := by
  obtain ⟨tokens, params, ht, rfl⟩ := Query.compile_eq_ok h hs
  obtain ⟨rfl, hb⟩ := Query.tokens_eq_ok ht
  exact ⟨rfl, hb⟩

/-! ### Going through a computed condition -/

section

variable {β : Type} {g : String → List β} {h : String → String}

/-- What is collected from the words of conditions does not depend on a connective with nothing to
collect. -/
theorem flatMap_connect {connective : Connective} (ho : g connective.operator = [])
    (conditions : List (List String)) :
    (connect connective conditions).flatMap g = conditions.flatten.flatMap g := by
  induction conditions with
  | nil => rfl
  | cons c r ih =>
    cases r with
    | nil => simp [connect]
    | cons c' r =>
      rw [connect, List.flatMap_append, List.flatMap_cons, ih, ho, List.nil_append,
        ← List.flatMap_append]
      · rfl
      · exact List.cons_ne_nil _ _

theorem flatMap_matchTokens {connective : Connective} (ho : g connective.operator = [])
    (hl : g "LIKE" = []) (fields patterns : List String) :
    (matchTokens connective fields patterns).flatMap g =
      fields.flatMap fun f => patterns.flatMap fun p => g f ++ g p := by
  have hone : ∀ f, (patterns.map fun p => [f, "LIKE", p]).flatten.flatMap g =
      patterns.flatMap fun p => g f ++ g p := by
    intro f
    induction patterns with
    | nil => rfl
    | cons p r ih =>
      rw [List.map_cons, List.flatten_cons, List.flatMap_append, ih, List.flatMap_cons]
      simp [hl]
  rw [matchTokens, flatMap_connect ho]
  induction fields with
  | nil => rfl
  | cons f r ih =>
    rw [List.flatMap_cons, List.flatten_append, List.flatMap_append, ih, hone f, List.flatMap_cons]

theorem map_connect {connective : Connective} (ho : h connective.operator = connective.operator)
    (conditions : List (List String)) :
    (connect connective conditions).map h = connect connective (conditions.map (List.map h)) := by
  induction conditions with
  | nil => rfl
  | cons c r ih =>
    cases r with
    | nil => rfl
    | cons c' r =>
      rw [connect, List.map_append, List.map_cons, ih, ho]
      · rfl
      · exact List.cons_ne_nil _ _

/-- Rewriting the words of a match rewrites its patterns, if it leaves the other words as they
are. -/
theorem map_matchTokens {connective : Connective} (ho : h connective.operator = connective.operator)
    (hl : h "LIKE" = "LIKE") {fields : List String} (hf : ∀ f ∈ fields, h f = f)
    (patterns : List String) :
    (matchTokens connective fields patterns).map h =
      matchTokens connective fields (patterns.map h) := by
  rw [matchTokens, map_connect ho, List.map_flatMap, matchTokens]
  refine congrArg (connect connective) (List.flatMap_congr fun f hm => ?_)
  rw [List.map_map, List.map_map]
  refine List.map_congr_left fun p _ => ?_
  simp [hl, hf f hm]

end

namespace Query

theorem tokensWith_of_not_isFiltered {q : Query} (h : q.isFiltered = false)
    (slot : Nat → Scalar → String) : q.tokensWith slot = [] := by
  cases q with
  | written | term => rfl
  | search q =>
    have hv : q.value = none := by simpa [isFiltered] using h
    simp [tokensWith, hv]
  | range q =>
    have hv : q.value = none := by simpa [isFiltered] using h
    simp [tokensWith, hv]

end Query

/-! ### Other text in the slots -/

section

variable {slot slot' : Nat → Scalar → String}

theorem mapIdx_slot_congr {l : List Scalar}
    (h : ∀ i s, l[i]? = some s → slot (i + 1) s = slot' (i + 1) s) :
    l.mapIdx (fun i s => slot (i + 1) s) = l.mapIdx fun i s => slot' (i + 1) s := by
  refine List.ext_getElem (by simp) fun i hi _ => ?_
  rw [List.getElem_mapIdx, List.getElem_mapIdx]
  exact h i _ (List.getElem?_eq_getElem (by simpa using hi))

theorem Range.writeWith_congr {r : Range}
    (h : ∀ i s, (r.texts.map Scalar.text)[i]? = some s → slot (i + 1) s = slot' (i + 1) s) :
    r.start.map (Bound.writeWith (slot 1)) = r.start.map (Bound.writeWith (slot' 1)) ∧
    r.stop.map (Bound.writeWith (slot r.stopSlot)) =
      r.stop.map (Bound.writeWith (slot' r.stopSlot)) := by
  obtain ⟨start, stop⟩ := r
  constructor
  · rcases start with _ | (_ | s)
    · rfl
    · rfl
    · exact congrArg some (h 0 (.text s) rfl)
  · rcases stop with _ | (_ | s)
    · rfl
    · rfl
    · -- the end is in the second slot if the start is in the first
      refine congrArg some ?_
      rcases start with _ | (_ | _)
      · exact h 0 (.text s) rfl
      · exact h 0 (.text s) rfl
      · exact h 1 (.text s) rfl

/-- **The slot with a number is the slot of the bound value with that number.** -/
theorem Query.tokensWith_congr {q : Query}
    (h : ∀ i s, q.bound[i]? = some s → slot (i + 1) s = slot' (i + 1) s) :
    q.tokensWith slot = q.tokensWith slot' := by
  cases q with
  | written | term => rfl
  | search q =>
    cases hv : q.value with
    | none => simp [tokensWith, hv]
    | some m =>
      simp only [bound, hv, Option.map_some, Option.getD_some] at h
      simp only [tokensWith, hv, mapIdx_slot_congr h]
  | range q =>
    cases hv : q.value with
    | none => simp [tokensWith, hv]
    | some r =>
      cases hf : q.dataFields with
      | nil => simp [tokensWith, hv, hf]
      | cons field others =>
        simp only [bound, hv, Option.map_some, Option.getD_some] at h
        obtain ⟨hlow, hhigh⟩ := Range.writeWith_congr h
        simp only [tokensWith, hv, hf]
        rw [hlow, hhigh]

end

/-! ### Computed conditions are not empty -/

theorem mem_connect {connective : Connective} {conditions : List (List String)} {c : List String}
    {s : String} (hc : c ∈ conditions) (hs : s ∈ c) : s ∈ connect connective conditions := by
  induction conditions with
  | nil => cases hc
  | cons a r ih =>
    cases r with
    | nil =>
      obtain rfl := List.mem_singleton.mp hc
      exact hs
    | cons b r =>
      rw [connect]
      · rcases List.mem_cons.mp hc with rfl | hc
        · exact List.mem_append_left _ hs
        · exact List.mem_append_right _ (List.mem_cons_of_mem _ (ih hc))
      · exact List.cons_ne_nil _ _

theorem Match.scalars_ne_nil {v : Option Json} {m : Match} (h : Match.parse v = .ok (some m)) :
    m.scalars ≠ [] := by
  cases v with
  | none => cases h
  | some j =>
    cases j with
    | array items =>
      obtain ⟨found, -, h⟩ := Outcome.bind_eq_ok.mp h
      simp only [Outcome.pure_eq_ok, Except.ok.injEq] at h
      split at h
      · cases h
      · next hne => cases h; simpa [scalars] using hne
    | null | bool | number | string | object =>
      obtain ⟨o, -, h⟩ := Outcome.bind_eq_ok.mp h
      cases o <;> cases h
      exact List.cons_ne_nil _ _

theorem Range.hasBound {v : Option Json} {r : Range} (h : Range.parse v = .ok (some r)) :
    r.start.isSome ∨ r.stop.isSome := by
  rcases v with _ | j
  · cases h
  · cases j with
    | object fields =>
      obtain ⟨start, -, h⟩ := Outcome.bind_eq_ok.mp h
      obtain ⟨stop, -, h⟩ := Outcome.bind_eq_ok.mp h
      cases start <;> cases stop <;> cases h <;> simp
    | null | bool | number | string | array => cases h

theorem conditionOf_eq_some {tokens : List String} (h : Text.joined " " tokens ≠ "") :
    conditionOf tokens = some (Text.joined " " tokens) := by
  cases tokens with
  | nil => exact absurd rfl h
  | cons t r => rfl

theorem mergeConditions_some {computed : String} (h : computed ≠ "") (written : Option String) :
    mergeConditions (some computed) written =
      some ((written.bind notBlank?).elim computed fun w =>
        "(" ++ computed ++ ") AND (" ++ w ++ ")") := by
  have hfilter : (some computed).filter (fun s => !s.isEmpty) = some computed := by
    simp [Option.filter, h]
  rw [mergeConditions, hfilter]
  cases written.bind notBlank? <;> rfl

namespace Descriptor

variable {d : Descriptor} {embedded : Option (List Binary64)} {defaultSize : Nat}

theorem ResolvesTo.joined_tokensWith_ne_empty {q : Query}
    (h : d.ResolvesTo embedded defaultSize q) {tokens : List String} {params : Params}
    (ht : q.tokens = .ok (tokens, params)) (hv : q.isFiltered = true)
    (slot : Nat → Scalar → String) : Text.joined " " (q.tokensWith slot) ≠ "" := by
  cases h with
  | written | term => cases hv
  | @search _ _ value _ _ _ _ _ hm =>
    obtain ⟨m, rfl⟩ := Option.isSome_iff_exists.mp hv
    obtain ⟨s, rest, hs⟩ := List.exists_cons_of_ne_nil (Match.scalars_ne_nil hm)
    cases hf : d.fieldNames with
    | nil => simp [Query.tokens, Filter.tokens, hf] at ht
    | cons field others =>
      simp only [Query.tokensWith, hs, List.map_cons, List.mapIdx_cons]
      have hc : ∀ p ps, [field, "LIKE", p] ∈
          (field :: others).flatMap fun f => (p :: ps).map fun p => [f, "LIKE", p] :=
        fun p ps => List.mem_cons_self
      have hlike : ∀ p, "LIKE" ∈ [field, "LIKE", p] := fun p =>
        List.mem_cons_of_mem _ List.mem_cons_self
      exact Text.joined_ne_empty (mem_connect (hc _ _) (hlike _)) (by decide)
  | @range value _ _ hm =>
    obtain ⟨r, rfl⟩ := Option.isSome_iff_exists.mp hv
    cases hf : d.fieldNames with
    | nil => simp [Query.tokens, Filter.tokens, hf] at ht
    | cons field others =>
      have hr := Range.hasBound hm
      simp only [Query.tokensWith, Text.joined_singleton]
      cases hlow : r.start <;> cases hhigh : r.stop <;> simp_all [rangeText]

theorem ResolvesTo.conditionOf_tokensWith {q : Query} (h : d.ResolvesTo embedded defaultSize q)
    {t : List String × Params} (ht : q.tokens = .ok t) (slot : Nat → Scalar → String) :
    conditionOf (q.tokensWith slot) =
        (if q.isFiltered then some (Text.joined " " (q.tokensWith slot)) else none) ∧
      ∀ c ∈ conditionOf (q.tokensWith slot), c ≠ "" := by
  cases hv : q.isFiltered with
  | false =>
    rw [Query.tokensWith_of_not_isFiltered hv]
    exact ⟨rfl, nofun⟩
  | true =>
    have hne := h.joined_tokensWith_ne_empty ht hv slot
    rw [conditionOf_eq_some hne]
    refine ⟨rfl, ?_⟩
    rintro c ⟨⟩
    exact hne

end Descriptor

end QueryBatch
