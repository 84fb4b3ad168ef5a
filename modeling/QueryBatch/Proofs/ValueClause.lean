import Mathlib.Data.List.ProdSigma
import QueryBatch.Proofs.Binding

/-! # The clause of a value

The clause that a value gives is a flat list of words: conditions of three words each, with the same
connective between any two neighbours. It can be read back, three words at a time, and then it is
true of a row if one of the conditions is, or if all of them are, as the connective says. A match
has one condition for each column and each scalar if the columns contain the scalars, and one for
each column if they equal them.

* `Clause.holds`: the truth of a flat clause, from the truth of its conditions.
* `IsClause`: a clause of given conditions; `isClause_connect`: conditions that are connected.
* `likeConditions`, `equalConditions`: the conditions of a match; `IsMatched`: what they ask for.
* `Filter.tokens_contains`, `Filter.tokens_equals`: **the clause of a match** is one of these
  conditions, and its scalars are bound behind what is bound already.
* `Filter.isClause_of_match`: both at once, for any value that is a match.
-/

namespace QueryBatch

/-! ### Flat clauses -/

/-- What a connective makes of single truths. -/
def Connective.combine : Connective → List Bool → Bool
  | .or, l => l.any id
  | .and, l => l.all id

namespace Clause

/-- **The alternatives of a clause**: conditions of three words that have to hold together, as `AND`
binds more tightly than `OR`. Words that are no clause have none. -/
def alternatives (truth : List String → Bool) : List String → Option (List (List Bool))
  | [field, operator, operand] => some [[truth [field, operator, operand]]]
  | field :: operator :: operand :: connective :: rest =>
    match alternatives truth rest with
    | some (a :: l) =>
      if connective = "AND" then some ((truth [field, operator, operand] :: a) :: l)
      else if connective = "OR" then some ([truth [field, operator, operand]] :: a :: l)
      else none
    | _ => none
  | _ => none

/-- **The truth of a clause**: all conditions of one of its alternatives hold. -/
def holds (truth : List String → Bool) (tokens : List String) : Option Bool :=
  (alternatives truth tokens).map fun l => l.any fun a => a.all id

variable {truth : List String → Bool} {conditions : List (List String)}

/-- Conditions between which there is an `OR` are alternatives, those between which there is an
`AND` make up one alternative. -/
theorem alternatives_connect (connective : Connective) (hne : conditions ≠ [])
    (h : ∀ c ∈ conditions, c.length = 3) :
    alternatives truth (connect connective conditions) =
      some (match connective with
        | .or => conditions.map fun c => [truth c]
        | .and => [conditions.map truth]) := by
  induction conditions with
  | nil => exact absurd rfl hne
  | cons c r ih =>
    obtain ⟨field, operator, operand, rfl⟩ := List.length_eq_three.mp (h c List.mem_cons_self)
    cases r with
    | nil => cases connective <;> simp [connect, alternatives]
    | cons c' r =>
      have hrest := ih (List.cons_ne_nil _ _) fun c hc => h c (List.mem_cons_of_mem _ hc)
      rw [connect]
      · simp only [List.cons_append, List.nil_append, alternatives, hrest]
        cases connective <;> simp [Connective.operator]
      · exact List.cons_ne_nil _ _

theorem holds_connect (connective : Connective) (hne : conditions ≠ [])
    (h : ∀ c ∈ conditions, c.length = 3) :
    holds truth (connect connective conditions) =
      some (connective.combine (conditions.map truth)) := by
  rw [holds, alternatives_connect connective hne h]
  cases connective with
  | or => simp [Connective.combine, List.any_map, Function.comp_def]
  | and => simp [Connective.combine]

end Clause

theorem connect_eq_intercalate (connective : Connective) (conditions : List (List String)) :
    connect connective conditions = [connective.operator].intercalate conditions := by
  induction conditions with
  | nil => rfl
  | cons c r ih =>
    cases r with
    | nil => rw [connect, List.intercalate_singleton]
    | cons c' r =>
      rw [connect, ih, List.intercalate_cons_cons, List.append_assoc]
      · rfl
      · exact List.cons_ne_nil _ _

theorem length_connect (connective : Connective) {conditions : List (List String)}
    (hne : conditions ≠ []) (h : ∀ c ∈ conditions, c.length = 3) :
    (connect connective conditions).length = 4 * conditions.length - 1 := by
  induction conditions with
  | nil => exact absurd rfl hne
  | cons c r ih =>
    have hc := h c List.mem_cons_self
    cases r with
    | nil => simp [connect, hc]
    | cons c' r =>
      have hrest := ih (List.cons_ne_nil _ _) fun c hc => h c (List.mem_cons_of_mem _ hc)
      rw [connect]
      · simp only [List.length_append, List.length_cons] at hrest ⊢
        omega
      · exact List.cons_ne_nil _ _

/-- **A clause of some conditions**: the connective stands between any two neighbours and nowhere
else, and the clause is true if the connective makes the truths of the conditions so. -/
structure IsClause (connective : Connective) (conditions : List (List String))
    (tokens : List String) : Prop where
  eq_intercalate : tokens = [connective.operator].intercalate conditions
  length : tokens.length = 4 * conditions.length - 1
  holds : ∀ truth, Clause.holds truth tokens = some (connective.combine (conditions.map truth))

theorem isClause_connect (connective : Connective) {conditions : List (List String)}
    (hne : conditions ≠ []) (h : ∀ c ∈ conditions, c.length = 3) :
    IsClause connective conditions (connect connective conditions) where
  eq_intercalate := connect_eq_intercalate connective conditions
  length := length_connect connective hne h
  holds _ := Clause.holds_connect connective hne h

/-! ### The conditions of a match -/

/-- **Each column contains each of some parameters**, column by column; `bound` parameters come
before them. -/
def likeConditions (fields : List String) (bound count : Nat) : List (List String) :=
  (fields ×ˢ List.range count).map fun p => [p.1, "LIKE", Params.placeholder (bound + p.2 + 1)]

/-- The operator and the operand for a value that is to be equalled. -/
def equalOperand (value : Json) (bound : Nat) : String × String :=
  match value with
  | .array _ => ("IN", "(" ++ ", ".intercalate ((List.range value.scalars.length).map fun j =>
      Params.placeholder (bound + j + 1)) ++ ")")
  | _ => ("=", Params.placeholder (bound + 1))

/-- **Each column equals a value**, or one of its items. -/
def equalConditions (fields : List String) (value : Json) (bound : Nat) : List (List String) :=
  fields.map fun f => [f, (equalOperand value bound).1, (equalOperand value bound).2]

theorem length_likeConditions (fields : List String) (bound count : Nat) :
    (likeConditions fields bound count).length = fields.length * count := by
  rw [likeConditions, List.length_map, List.length_product, List.length_range]

/-- **What a match asks for**: some column contains one of the parameters, or each column contains
each of them. -/
def IsMatched (truth : List String → Bool) (fields : List String) (bound count : Nat) :
    Connective → Prop
  | .or => ∃ f ∈ fields, ∃ j < count,
    truth [f, "LIKE", Params.placeholder (bound + j + 1)] = true
  | .and => ∀ f ∈ fields, ∀ j < count,
    truth [f, "LIKE", Params.placeholder (bound + j + 1)] = true

theorem combine_likeConditions_iff {truth : List String → Bool} {fields : List String}
    {bound count : Nat} (connective : Connective) :
    connective.combine ((likeConditions fields bound count).map truth) = true ↔
      IsMatched truth fields bound count connective := by
  have hmem : ∀ c, c ∈ likeConditions fields bound count ↔ ∃ f ∈ fields, ∃ j < count,
      [f, "LIKE", Params.placeholder (bound + j + 1)] = c := by
    intro c
    rw [likeConditions, List.mem_map]
    constructor
    · rintro ⟨⟨f, j⟩, hp, hc⟩
      obtain ⟨hf, hj⟩ := List.mem_product.mp hp
      exact ⟨f, hf, j, List.mem_range.mp hj, hc⟩
    · rintro ⟨f, hf, j, hj, hc⟩
      exact ⟨(f, j), List.mem_product.mpr ⟨hf, List.mem_range.mpr hj⟩, hc⟩
  cases connective with
  | or =>
    simp only [IsMatched, Connective.combine, List.any_eq_true, List.mem_map, id,
      exists_exists_and_eq_and, hmem]
    constructor
    · rintro ⟨c, ⟨f, hf, j, hj, rfl⟩, ht⟩
      exact ⟨f, hf, j, hj, ht⟩
    · rintro ⟨f, hf, j, hj, ht⟩
      exact ⟨_, ⟨f, hf, j, hj, rfl⟩, ht⟩
  | and =>
    simp only [IsMatched, Connective.combine, List.all_eq_true, List.forall_mem_map, id, hmem]
    constructor
    · intro h f hf j hj
      exact h _ ⟨f, hf, j, hj, rfl⟩
    · rintro h c ⟨f, hf, j, hj, rfl⟩
      exact h f hf j hj

theorem likeConditions_ne_nil {fields : List String} {bound count : Nat} (hf : fields ≠ [])
    (hc : count ≠ 0) : likeConditions fields bound count ≠ [] := by
  rw [← List.length_pos_iff_ne_nil, length_likeConditions]
  exact Nat.mul_pos (List.length_pos_iff_ne_nil.mpr hf) (Nat.pos_of_ne_zero hc)

theorem length_eq_of_mem_likeConditions {fields : List String} {bound count : Nat} :
    ∀ c ∈ likeConditions fields bound count, c.length = 3 := by
  intro c hc
  obtain ⟨p, -, rfl⟩ := List.mem_map.mp hc
  rfl

theorem length_eq_of_mem_equalConditions {fields : List String} {value : Json} {bound : Nat} :
    ∀ c ∈ equalConditions fields value bound, c.length = 3 := by
  intro c hc
  obtain ⟨f, -, rfl⟩ := List.mem_map.mp hc
  rfl

theorem Match.exists_eq_many {items : List Json} {m : Match}
    (h : Match.parse (some (.array items)) = .ok (some m)) : ∃ l, m = .many l := by
  obtain ⟨found, -, h⟩ := Outcome.bind_eq_ok.mp h
  simp only [Outcome.pure_eq_ok, Except.ok.injEq] at h
  split at h
  · cases h
  · cases h
    exact ⟨_, rfl⟩

theorem Match.exists_eq_single {value : Json} {m : Match}
    (h : Match.parse (some value) = .ok (some m)) (hv : ∀ items, value ≠ .array items) :
    ∃ s, m = .single s := by
  cases value with
  | array items => exact absurd rfl (hv items)
  | null | bool | number | string | object =>
    obtain ⟨found, -, h⟩ := Outcome.bind_eq_ok.mp h
    cases found with
    | none => cases h
    | some s =>
      cases h
      exact ⟨s, rfl⟩

theorem Params.placeholders_bindAll (p : Params) (l : List Scalar) :
    (p.bindAll l).1 = (List.range l.length).map fun j => placeholder (p.size + j + 1) := by
  rw [Params.fst_bindAll]
  exact List.ext_getElem (by simp) (by simp)

theorem Params.snd_bindAll (p : Params) (l : List Scalar) : (p.bindAll l).2 = ⟨p.bound ++ l⟩ :=
  congrArg Params.mk (p.bound_bindAll l)

theorem Text.joined_eq_intercalate (separator : String) (l : List String) :
    joined separator l = separator.intercalate l := by
  induction l with
  | nil => rfl
  | cons s r ih =>
    cases r with
    | nil => simp
    | cons t r => rw [joined_cons_cons, ih, String.intercalate_cons_cons]

namespace Filter

variable {fields : List String}

theorem tokens_contains (m : Match) (hf : fields ≠ []) (connective : Connective)
    (params : Params) :
    Filter.tokens (some (.contains m)) fields connective params =
      .ok (connect connective (likeConditions fields params.size m.scalars.length),
        ⟨params.bound ++ m.scalars.map pattern⟩) := by
  obtain ⟨field, others, rfl⟩ := List.exists_cons_of_ne_nil hf
  simp only [Filter.tokens, Filter.conditions, Params.placeholders_bindAll, Params.snd_bindAll]
  simp only [likeConditions, SProd.sprod, List.product, List.map_flatMap, List.map_map,
    List.length_map, Function.comp_def]

theorem tokens_equals {value : Json} {m : Match} (hm : Match.parse (some value) = .ok (some m))
    (hf : fields ≠ []) (connective : Connective) (params : Params) :
    Filter.tokens (some (.equals m)) fields connective params =
      .ok (connect connective (equalConditions fields value params.size),
        ⟨params.bound ++ m.scalars⟩) := by
  obtain ⟨field, others, rfl⟩ := List.exists_cons_of_ne_nil hf
  have hscalars : m.scalars = value.scalars := Match.parse_eq_ok hm
  cases value with
  | array items =>
    obtain ⟨l, rfl⟩ := Match.exists_eq_many hm
    have hl : l = (Json.array items).scalars := hscalars
    simp only [Filter.tokens, Filter.conditions, Params.placeholders_bindAll, Params.snd_bindAll,
      Text.joined_eq_intercalate, hl]
    rfl
  | null | bool | number | string | object =>
    obtain ⟨s, rfl⟩ := Match.exists_eq_single hm (by simp)
    rfl

/-- **The clause of a match**, for any value that is one, on any columns and behind any parameters.
If the columns are to contain the scalars, each of these is bound as a pattern and each column is
compared with each of them; if the columns are to equal them, they are bound as they are and each
column is compared once. -/
theorem isClause_of_match {value : Json} {m : Match}
    (hm : Match.parse (some value) = .ok (some m)) (hf : fields ≠ []) (connective : Connective)
    (params : Params) :
    0 < value.scalars.length ∧
    (∃ tokens, Filter.tokens (some (.contains m)) fields connective params =
        .ok (tokens, ⟨params.bound ++ value.scalars.map pattern⟩) ∧
      tokens.length = 4 * fields.length * value.scalars.length - 1 ∧
      IsClause connective (likeConditions fields params.size value.scalars.length) tokens ∧
      ∀ truth, (Clause.holds truth tokens = some true ↔
        IsMatched truth fields params.size value.scalars.length connective)) ∧
    ∃ tokens, Filter.tokens (some (.equals m)) fields connective params =
        .ok (tokens, ⟨params.bound ++ value.scalars⟩) ∧
      IsClause connective (equalConditions fields value params.size) tokens := by
  have hscalars : m.scalars = value.scalars := Match.parse_eq_ok hm
  have hpos : 0 < value.scalars.length := by
    rw [← hscalars]
    exact List.length_pos_iff_ne_nil.mpr (Match.scalars_ne_nil hm)
  have hlike : IsClause connective (likeConditions fields params.size value.scalars.length)
      (connect connective (likeConditions fields params.size value.scalars.length)) :=
    isClause_connect connective (likeConditions_ne_nil hf (by omega))
      length_eq_of_mem_likeConditions
  have hequal : IsClause connective (equalConditions fields value params.size)
      (connect connective (equalConditions fields value params.size)) :=
    isClause_connect connective (by simpa [equalConditions] using hf)
      length_eq_of_mem_equalConditions
  refine ⟨hpos, ⟨_, ?_, ?_, hlike, fun truth => ?_⟩, _, ?_, hequal⟩
  · rw [tokens_contains m hf, hscalars]
  · rw [hlike.length, length_likeConditions, Nat.mul_assoc]
  · rw [hlike.holds, Option.some_inj, combine_likeConditions_iff]
  · rw [tokens_equals hm hf, hscalars]

/-- A word and a truth value, with null and the empty text between them, which do not count. -/
def mixedValue : Json := .array [.string "dune", .null, .string "", .bool true]

/-- Two columns and two scalars, behind a parameter that is bound already. -/
theorem isClause_mixedValue :
    Match.parse (some mixedValue) = .ok (some (.many [.text "dune", .bool true])) ∧
    (∃ tokens, Filter.tokens (some (.contains (.many [.text "dune", .bool true])))
        ["title", "author"] .and ⟨[.text "x"]⟩ =
          .ok (tokens, ⟨[.text "x", .text "%dune%", .text "%true%"]⟩) ∧
      tokens = ["title", "LIKE", "$2", "AND", "title", "LIKE", "$3", "AND",
        "author", "LIKE", "$2", "AND", "author", "LIKE", "$3"] ∧
      tokens.length = 15 ∧
      Clause.holds (fun c => c.head? = some "title") tokens = some false) ∧
    ∃ tokens, Filter.tokens (some (.equals (.many [.text "dune", .bool true])))
        ["title", "author"] .and ⟨[.text "x"]⟩ =
          .ok (tokens, ⟨[.text "x", .text "dune", .bool true]⟩) ∧
      tokens = ["title", "IN", "($2, $3)", "AND", "author", "IN", "($2, $3)"] := by
  have hm : Match.parse (some mixedValue) = .ok (some (.many [.text "dune", .bool true])) := by
    decide +kernel
  obtain ⟨-, ⟨tokens, htokens, hlength, hlike, -⟩, tokens', htokens', hequal⟩ :=
    isClause_of_match hm (List.cons_ne_nil "title" ["author"]) .and ⟨[.text "x"]⟩
  refine ⟨hm, ⟨tokens, htokens, ?_, hlength, ?_⟩, tokens', htokens', ?_⟩
  · rw [hlike.eq_intercalate]
    decide +kernel
  · rw [hlike.holds]
    decide +kernel
  · rw [hequal.eq_intercalate]
    decide +kernel

end Filter

end QueryBatch
