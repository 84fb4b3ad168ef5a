import QueryBatch.Proofs.Binding

/-! # Statements do not tell values apart

Two values have the same *shape* if they have the same constructor at every place and their texts
are empty at the same places. Two descriptors that differ in their values only, where these have the
same shape, compile alike: either neither compiles, or both have the same statement text and the
same shape of rows. Their parameters are made of what stands at the same places of the two values.

* `Json.isShapedLike`: values of the same shape.
* `Query.IsLike`: queries that differ in the texts of their values only. `Query.compile_alike`: they
  compile alike.
* `Descriptor.DifferInValue`, `SameText`: **the two-run statement**,
  `Descriptor.compile_alike_of_differInValue`.
-/

namespace QueryBatch

open Outcome

/-! ### Values of the same shape -/

namespace Json

mutual

/-- **Values of the same shape**: the same constructor at every place, and empty texts at the same
places. -/
def isShapedLike : Json → Json → Bool
  | .null, .null => true
  | .bool _, .bool _ => true
  | .number _, .number _ => true
  | .string s, .string t => s.isEmpty == t.isEmpty
  | .array l, .array m => areShapedLike l m
  | .object l, .object m => fieldsShapedLike l m
  | _, _ => false

/-- Items of the same shapes. -/
def areShapedLike : List Json → List Json → Bool
  | [], [] => true
  | a :: l, b :: m => isShapedLike a b && areShapedLike l m
  | _, _ => false

/-- The same keys with values of the same shapes. -/
def fieldsShapedLike : List (String × Json) → List (String × Json) → Bool
  | [], [] => true
  | (k, a) :: l, (k', b) :: m => k == k' && isShapedLike a b && fieldsShapedLike l m
  | _, _ => false

end

/-- Two values of the same shape, as a relation. -/
abbrev Shaped (a b : Json) : Prop := a.isShapedLike b = true

theorem get?_shaped (k : String) : ∀ {l m : List (String × Json)}, fieldsShapedLike l m = true →
    Option.Rel Shaped (Keyed.get? k l) (Keyed.get? k m)
  | [], [], _ => .none
  | [], _ :: _, h => by simp [fieldsShapedLike] at h
  | _ :: _, [], h => by simp [fieldsShapedLike] at h
  | (k', a) :: l, (k'', b) :: m, h => by
    simp only [fieldsShapedLike, Bool.and_eq_true, beq_iff_eq] at h
    obtain ⟨⟨rfl, hab⟩, hr⟩ := h
    by_cases hk : k = k'
    · simpa [Keyed.get?, hk] using Option.Rel.some hab
    · simpa [Keyed.get?, hk] using get?_shaped k hr

theorem length_eq_of_shaped : ∀ {l m : List Json}, areShapedLike l m = true →
    l.length = m.length
  | [], [], _ => rfl
  | [], _ :: _, h => by simp [areShapedLike] at h
  | _ :: _, [], h => by simp [areShapedLike] at h
  | a :: l, b :: m, h => by
    simp only [areShapedLike, Bool.and_eq_true] at h
    rw [List.length_cons, List.length_cons, length_eq_of_shaped h.2]

theorem getElem?_shaped : ∀ {l m : List Json} (i : Nat), areShapedLike l m = true →
    Option.Rel Shaped l[i]? m[i]?
  | [], [], _, _ => .none
  | [], _ :: _, _, h => by simp [areShapedLike] at h
  | _ :: _, [], _, h => by simp [areShapedLike] at h
  | a :: l, b :: m, 0, h => by
    simp only [areShapedLike, Bool.and_eq_true] at h
    exact .some h.1
  | a :: l, b :: m, i + 1, h => by
    simp only [areShapedLike, Bool.and_eq_true] at h
    exact getElem?_shaped i h.2

end Json

/-- Matches with as many scalars. -/
def Match.IsLike (m m' : Match) : Prop := m.scalars.length = m'.scalars.length

/-- Bounds that are the same number or both texts. -/
def Bound.IsLike : Bound → Bound → Prop
  | .number n, .number n' => n = n'
  | .text _, .text _ => True
  | _, _ => False

/-- Ranges with such bounds at the same sides. -/
def Range.IsLike (r r' : Range) : Prop :=
  Option.Rel Bound.IsLike r.start r'.start ∧ Option.Rel Bound.IsLike r.stop r'.stop

theorem Scalar.parse_alike {a b : Json} (h : a.Shaped b) :
    Alike AnyErrors (fun o o' => o.isSome = o'.isSome) (Scalar.parse a) (Scalar.parse b) := by
  cases a <;> cases b <;> simp only [Json.Shaped, Json.isShapedLike, Bool.false_eq_true] at h
  case string.string s t =>
    refine .done ?_
    rw [beq_iff_eq] at h
    by_cases hs : s.isEmpty = true
    · rw [if_pos hs, if_pos (h ▸ hs)]
    · rw [if_neg hs, if_neg (h ▸ hs)]; rfl
  case array.array => exact .failed trivial
  case object.object => exact .failed trivial
  all_goals exact .done rfl

theorem Scalar.mapM_parse_alike : ∀ {l m : List Json}, Json.areShapedLike l m = true →
    Alike AnyErrors (fun f f' => f.map Option.isSome = f'.map Option.isSome)
      (l.mapM Scalar.parse) (m.mapM Scalar.parse)
  | [], [], _ => .done rfl
  | [], _ :: _, h => by simp [Json.areShapedLike] at h
  | _ :: _, [], h => by simp [Json.areShapedLike] at h
  | a :: l, b :: m, h => by
    simp only [Json.areShapedLike, Bool.and_eq_true] at h
    rw [List.mapM_cons, List.mapM_cons]
    refine (Scalar.parse_alike h.1).bind fun o o' ho => ?_
    refine (Scalar.mapM_parse_alike h.2).bind fun f f' hf => .done ?_
    rw [List.map_cons, List.map_cons, ho, hf]

theorem Match.parse_alike {v v' : Option Json} (h : Option.Rel Json.Shaped v v') :
    Alike AnyErrors (Option.Rel Match.IsLike) (Match.parse v) (Match.parse v') := by
  cases h with
  | none => exact .done .none
  | @some a b h =>
    have hsingle : Alike AnyErrors (Option.Rel Match.IsLike)
        (Scalar.parse a >>= fun o => pure (o.map .single))
        (Scalar.parse b >>= fun o => pure (o.map .single)) := by
      refine (Scalar.parse_alike h).bind fun o o' ho => .done ?_
      cases o <;> cases o' <;> first | exact .none | exact .some rfl | simp at ho
    cases a <;> cases b <;> simp only [Json.Shaped, Json.isShapedLike, Bool.false_eq_true] at h
    case array.array l m =>
      refine (Scalar.mapM_parse_alike h).bind fun f f' hf => .done ?_
      have hlen : (f.filterMap id).length = (f'.filterMap id).length := by
        have hc := congrArg (List.countP fun b => b) hf
        rw [List.countP_map, List.countP_map] at hc
        rw [List.length_filterMap_eq_countP, List.length_filterMap_eq_countP]
        exact hc
      have hnil : (f.filterMap id).isEmpty = (f'.filterMap id).isEmpty := by
        rw [Bool.eq_iff_iff, List.isEmpty_iff_length_eq_zero, List.isEmpty_iff_length_eq_zero, hlen]
      by_cases he : (f.filterMap id).isEmpty = true
      · rw [if_pos he, if_pos (hnil ▸ he)]; exact .none
      · rw [if_neg he, if_neg (hnil ▸ he)]; exact .some hlen
    all_goals exact hsingle

theorem Bound.parse_alike {side : String} {j j' : Option Json} (h : Option.Rel Json.Shaped j j')
    (hn : ∀ n n', j = some (.number n) → j' = some (.number n') → n = n') :
    Alike AnyErrors (Option.Rel Bound.IsLike) (Bound.parse side j) (Bound.parse side j') := by
  cases h with
  | none => exact .done .none
  | @some a b h =>
    cases a <;> cases b <;> simp only [Json.Shaped, Json.isShapedLike, Bool.false_eq_true] at h
    case null.null => exact .done .none
    case number.number n n' => exact .done (.some (hn n n' rfl rfl))
    case string.string s t =>
      refine .done ?_
      rw [beq_iff_eq] at h
      by_cases hs : s.isEmpty = true
      · rw [if_pos hs, if_pos (h ▸ hs)]; exact .none
      · rw [if_neg hs, if_neg (h ▸ hs)]; exact .some trivial
    all_goals exact .failed trivial

/-- The bounds of two values that are numbers are the same numbers. -/
def SameNumbers (v v' : Json) : Prop :=
  ∀ side, side = "start" ∨ side = "end" → ∀ n n',
    v.field? side = some (.number n) → v'.field? side = some (.number n') → n = n'

theorem Range.parse_alike {v v' : Option Json} (h : Option.Rel Json.Shaped v v')
    (hn : ∀ a ∈ v, ∀ b ∈ v', SameNumbers a b) :
    Alike AnyErrors (Option.Rel Range.IsLike) (Range.parse v) (Range.parse v') := by
  cases h with
  | none => exact .done .none
  | @some a b h =>
    have hs := hn a rfl b rfl
    cases a <;> cases b <;> simp only [Json.Shaped, Json.isShapedLike, Bool.false_eq_true] at h
    case null.null => exact .done .none
    case object.object l m =>
      refine (Bound.parse_alike (Json.get?_shaped "start" h) (hs "start" (.inl rfl))).bind
        fun low low' hlow => ?_
      refine (Bound.parse_alike (Json.get?_shaped "end" h) (hs "end" (.inr rfl))).bind
        fun high high' hhigh => .done ?_
      cases hlow with
      | some hl => exact .some ⟨.some hl, hhigh⟩
      | none =>
        cases hhigh with
        | some hh => exact .some ⟨.none, .some hh⟩
        | none => exact .none
    all_goals exact .failed trivial

/-! ### Queries that differ in the texts of their values -/

/-- **Queries that differ in the texts of their values only.** -/
inductive Query.IsLike : Query → Query → Prop
  | same (q : Query) : IsLike q q
  | search {q q' : SearchQuery} (others : q' = { q with value := q'.value })
    (h : Option.Rel Match.IsLike q.value q'.value) : IsLike (.search q) (.search q')
  | range {q q' : RangeQuery} (others : q' = { q with value := q'.value })
    (h : Option.Rel Range.IsLike q.value q'.value) : IsLike (.range q) (.range q')

/-- Compiled queries with the same text and the same shape of rows. -/
structure Compiled.IsLike (c c' : Compiled) : Prop where
  shape : c.shape = c'.shape
  sql : Option.Rel (fun s s' : Statement => s.sql = s'.sql) c.statement c'.statement

theorem Compiled.IsLike.refl (c : Compiled) : c.IsLike c :=
  ⟨rfl, by cases c.statement with
    | none => exact .none
    | some s => exact .some rfl⟩

/-! ### Conditions of such queries -/

theorem map_writeWith_eq {o o' : Option Bound} (h : Option.Rel Bound.IsLike o o') (t : String) :
    o.map (Bound.writeWith fun _ => t) = o'.map (Bound.writeWith fun _ => t) := by
  cases h with
  | none => rfl
  | @some b b' hb =>
    cases b <;> cases b' <;> simp only [Bound.IsLike] at hb
    · rw [hb]
    · rfl

theorem length_text?_eq {o o' : Option Bound} (h : Option.Rel Bound.IsLike o o') :
    (o.bind Bound.text?).toList.length = (o'.bind Bound.text?).toList.length := by
  cases h with
  | none => rfl
  | @some b b' hb => cases b <;> cases b' <;> simp only [Bound.IsLike] at hb <;> rfl

theorem rangeCondition_eq_of_isLike {r r' : Range} (h : r.IsLike r') (field : String) :
    (rangeCondition field r .empty).1 = (rangeCondition field r' .empty).1 := by
  have hslot : r.stopSlot = r'.stopSlot := congrArg (· + 1) (length_text?_eq h.1)
  rw [rangeCondition_eq, rangeCondition_eq, hslot, map_writeWith_eq h.1, map_writeWith_eq h.2]

theorem fst_bindAll_eq_of_isLike {m m' : Match} (h : m.IsLike m') (p : Params) :
    (p.bindAll (m.scalars.map pattern)).1 = (p.bindAll (m'.scalars.map pattern)).1 := by
  rw [Params.fst_bindAll, Params.fst_bindAll]
  have hl : m.scalars.length = m'.scalars.length := h
  refine List.ext_getElem (by simp [hl]) fun i _ _ => ?_
  simp

theorem tokens_contains_alike {v v' : Option Match} (h : Option.Rel Match.IsLike v v')
    (fields : List String) (connective : Connective) :
    Alike AnyErrors (fun t t' : List String × Params => t.1 = t'.1)
      (Filter.tokens (v.map .contains) fields connective .empty)
      (Filter.tokens (v'.map .contains) fields connective .empty) := by
  cases h with
  | none => exact .done rfl
  | @some m m' hm =>
    cases fields with
    | nil => exact .failed trivial
    | cons field others =>
      have hp := fst_bindAll_eq_of_isLike hm .empty
      exact .done (congrArg (matchTokens connective (field :: others)) hp)

theorem tokens_range_alike {v v' : Option Range} (h : Option.Rel Range.IsLike v v')
    (fields : List String) (connective : Connective) :
    Alike AnyErrors (fun t t' : List String × Params => t.1 = t'.1)
      (Filter.tokens (v.map .range) fields connective .empty)
      (Filter.tokens (v'.map .range) fields connective .empty) := by
  cases h with
  | none => exact .done rfl
  | @some r r' hr =>
    cases fields with
    | nil => exact .failed trivial
    | cons field others =>
      have ht := rangeCondition_eq_of_isLike hr field
      exact .done (congrArg (fun t => connect connective [[t]]) ht)

/-- **Queries that differ in the texts of their values compile alike.** -/
theorem Query.compile_alike {q q' : Query} (h : q.IsLike q') (countsRows : Bool) :
    Alike AnyErrors Compiled.IsLike (q.compile countsRows) (q'.compile countsRows) := by
  cases h with
  | same => exact .refl (fun _ => trivial) Compiled.IsLike.refl _
  | @search q q' others h =>
    generalize q'.value = v' at others h
    subst others
    refine (tokens_contains_alike h q.dataFields q.connective).bind ?_
    rintro ⟨tokens, params⟩ ⟨_, params'⟩ rfl
    exact .done ⟨rfl, .some rfl⟩
  | @range q q' others h =>
    generalize q'.value = v' at others h
    subst others
    simp only [compile, RangeQuery.compile]
    split
    · exact .done (.refl _)
    · split
      · exact .failed trivial
      · exact .failed trivial
      · next field _ table _ _ _ =>
        refine (tokens_range_alike h [field] .or).bind ?_
        rintro ⟨tokens, params⟩ ⟨_, params'⟩ rfl
        refine (Alike.same (fun _ => trivial) (q.bounds? field table _)).bind ?_
        rintro bounds _ rfl
        refine (Alike.same (fun _ => trivial) (q.sql field table _ _)).bind ?_
        rintro sql _ rfl
        exact .done ⟨rfl, .some rfl⟩

/-! ### Places of values of the same shape -/

theorem Place.find?_shaped {a b : Json} (h : a.Shaped b) (p : Place) :
    Option.Rel Json.Shaped (p.find? a) (p.find? b) := by
  cases p with
  | whole => exact .some h
  | item i =>
    cases a <;> cases b <;> simp only [Json.Shaped, Json.isShapedLike, Bool.false_eq_true] at h
    case array.array l m =>
      show Option.Rel Json.Shaped l[i]? m[i]?
      exact Json.getElem?_shaped i h
    all_goals exact .none
  | key k =>
    cases a <;> cases b <;> simp only [Json.Shaped, Json.isShapedLike, Bool.false_eq_true] at h
    case object.object => exact Json.get?_shaped k h
    all_goals exact .none

theorem Kind.places_eq_of_shaped {a b : Json} (h : a.Shaped b) (k : Kind) :
    k.places a = k.places b := by
  cases a <;> cases b <;> simp only [Json.Shaped, Json.isShapedLike, Bool.false_eq_true] at h
  case array.array =>
    have hl := Json.length_eq_of_shaped h
    cases k <;> simp [Kind.places, hl]
  all_goals cases k <;> rfl

theorem Kind.isSome_binding_eq_of_shaped {a b : Json} (h : a.Shaped b) (k : Kind) :
    (k.binding a).isSome = (k.binding b).isSome := by
  cases a <;> cases b <;> simp only [Json.Shaped, Json.isShapedLike, Bool.false_eq_true] at h
  case string.string s t =>
    rw [beq_iff_eq] at h
    cases k <;> by_cases hs : s.isEmpty = true <;>
      simp [Kind.binding, Json.scalar?, Json.string?, Option.filter, ← h, hs]
  all_goals cases k <;> rfl

/-! ### Descriptors that differ in their values -/

namespace Descriptor

/-- **Descriptors that differ in their values only**, where these have the same shape. The bounds of
a range that are numbers stand in the text of a statement, so they are the same. -/
structure DifferInValue (d d' : Descriptor) : Prop where
  others : d' = { d with value := d'.value }
  shape : Option.Rel Json.Shaped d.value d'.value
  bounds : d.kindOrDefault = .range → ∀ a ∈ d.value, ∀ b ∈ d'.value, SameNumbers a b

/-- **Statements with the same text**, whose parameters are what stands at the same places of two
values; they differ only where these values do. -/
structure SameText (d d' : Descriptor) (s s' : Statement) : Prop where
  sql : s.sql = s'.sql
  length : s.params.length = s'.params.length
  params : s.params.map some = d.boundPlaces.map d.boundAt
  params' : s'.params.map some = d.boundPlaces.map d'.boundAt
  differ : ∀ i : Nat, s.params[i]? ≠ s'.params[i]? →
    ∃ p, d.boundPlaces[i]? = some p ∧ d.valueAt p ≠ d'.valueAt p
  unbound : d.statement?.isSome ∨ d.kindOrDefault = .term → s.params = [] ∧ s'.params = []

variable {d d' : Descriptor}

theorem valueAt_shaped (h : d.DifferInValue d') (p : Place) :
    Option.Rel Json.Shaped (d.valueAt p) (d'.valueAt p) := by
  have hs := h.shape
  unfold valueAt
  revert hs
  generalize d.value = v
  generalize d'.value = v'
  intro hs
  cases hs with
  | none => exact .none
  | some hab => exact Place.find?_shaped hab p

theorem kindOrDefault_eq (h : d.DifferInValue d') : d'.kindOrDefault = d.kindOrDefault := by
  rw [h.others]; rfl

theorem isSome_boundAt_eq (h : d.DifferInValue d') (p : Place) :
    (d.boundAt p).isSome = (d'.boundAt p).isSome := by
  have hv := valueAt_shaped h p
  unfold boundAt
  rw [kindOrDefault_eq h]
  revert hv
  generalize d.valueAt p = v
  generalize d'.valueAt p = v'
  intro hv
  cases hv with
  | none => rfl
  | some hab => exact Kind.isSome_binding_eq_of_shaped hab d.kindOrDefault

theorem boundPlaces_eq (h : d.DifferInValue d') : d'.boundPlaces = d.boundPlaces := by
  have hw : d'.statement? = d.statement? := by rw [h.others]; rfl
  have hp : d'.value.map d'.kindOrDefault.places = d.value.map d.kindOrDefault.places := by
    rw [kindOrDefault_eq h]
    have hs := h.shape
    revert hs
    generalize d.value = v
    generalize d'.value = v'
    intro hs
    cases hs with
    | none => rfl
    | some hab => exact congrArg some (Kind.places_eq_of_shaped hab d.kindOrDefault).symm
  have hb : (fun p => (d'.boundAt p).isSome) = fun p => (d.boundAt p).isSome :=
    funext fun p => (isSome_boundAt_eq h p).symm
  unfold boundPlaces
  rw [hw, hp, hb]

theorem resolve_alike (h : d.DifferInValue d') (embedded : Option (List Binary64))
    (defaultSize : Nat) :
    Alike AnyErrors (fun n n' : NamedQuery => n.name = n'.name ∧ n.query.IsLike n'.query)
      (d.resolve embedded defaultSize) (d'.resolve embedded defaultSize) := by
  obtain ⟨ho, hs, hb⟩ := h
  generalize d'.value = v' at ho hs hb
  subst ho
  have heq {α : Type} (x : Except QueryError α) : Alike AnyErrors Eq x x :=
    .same (fun _ => trivial) x
  refine (heq d.resolveTables).bind ?_
  rintro tables _ rfl
  refine (heq (Identifier.checkAll d.fieldNames)).bind ?_
  rintro _ _ -
  have hmatch := Match.parse_alike hs
  have hsearch : Alike AnyErrors Query.IsLike
      ((d.resolveSearch tables embedded defaultSize).map .search)
      (({ d with value := v' }.resolveSearch tables embedded defaultSize).map .search) := by
    refine Alike.map (R := fun q q' => Query.IsLike (.search q) (.search q')) ?_ fun _ _ h => h
    refine (heq (Identifier.checkAll d.includedFields)).bind ?_
    rintro _ _ -
    refine (heq (Identifier.checkOptional d.sortField)).bind ?_
    rintro _ _ -
    refine (heq d.resolveOrder).bind ?_
    rintro sortBy _ rfl
    refine (heq (d.resolveVector embedded)).bind ?_
    rintro vector _ rfl
    exact hmatch.bind fun m m' hm => .done (.search rfl hm)
  have hkind : Alike AnyErrors Query.IsLike (d.resolveKind tables embedded defaultSize)
      ({ d with value := v' }.resolveKind tables embedded defaultSize) := by
    have hk' : { d with value := v' }.kindOrDefault = d.kindOrDefault := rfl
    unfold resolveKind
    rw [hk']
    cases hk : d.kindOrDefault with
    | search => exact hsearch
    | suggestion => exact hsearch
    | term =>
      refine Alike.map (R := Eq) ?_ fun q _ h => h ▸ .same (.term q)
      exact hmatch.bind fun _ _ _ => .done rfl
    | range =>
      refine Alike.map (R := fun q q' => Query.IsLike (.range q) (.range q')) ?_ fun _ _ h => h
      exact (Range.parse_alike hs (hb hk)).bind fun r r' hr => .done (.range rfl hr)
  have hw : { d with value := v' }.statement? = d.statement? := rfl
  rw [hw]
  cases d.statement? with
  | some s => exact .done ⟨rfl, .same _⟩
  | none => exact hkind.bind fun q q' hq => .done ⟨rfl, hq⟩

theorem sameText_of_params (h : d.DifferInValue d') {s s' : Statement} (hsql : s.sql = s'.sql)
    (hp : s.params.map some = d.boundPlaces.map d.boundAt)
    (hp' : s'.params.map some = d.boundPlaces.map d'.boundAt) : SameText d d' s s' := by
  have hl : s.params.length = s'.params.length := by
    have hlen := congrArg List.length hp
    have hlen' := congrArg List.length hp'
    rw [List.length_map, List.length_map] at hlen hlen'
    omega
  refine ⟨hsql, hl, hp, hp', fun i hi => ?_, fun hu => ?_⟩
  · have hat := congrArg (fun l => l[i]?) hp
    have hat' := congrArg (fun l => l[i]?) hp'
    simp only [List.getElem?_map] at hat hat'
    cases hplace : d.boundPlaces[i]? with
    | none =>
      rw [hplace, Option.map_none, Option.map_eq_none_iff] at hat hat'
      exact absurd (hat.trans hat'.symm) hi
    | some p =>
      refine ⟨p, rfl, fun hv => hi ?_⟩
      -- equal values are bound alike
      have hb : d.boundAt p = d'.boundAt p := by
        unfold boundAt
        rw [kindOrDefault_eq h, hv]
      rw [hplace, Option.map_some] at hat hat'
      have hsome := (hat.trans (congrArg some hb)).trans hat'.symm
      exact (Option.map_inj_right fun _ _ => Option.some.inj).mp hsome
  · have hnil : d.boundPlaces = [] := by
      unfold boundPlaces
      rcases hu with hw | hk
      · rw [if_pos hw]
      · rw [hk]
        cases d.value <;> simp [Kind.places]
    rw [hnil, List.map_nil, List.map_eq_nil_iff] at hp hp'
    exact ⟨hp, hp'⟩

/-- **Statements do not tell values apart.** Descriptors that differ in values of the same shape
fail together, or compile to the same text with the same shape of rows, and their parameters are
what is bound at the same places of the two values. -/
theorem compile_alike_of_differInValue (h : d.DifferInValue d')
    (embedded : Option (List Binary64)) (defaultSize : Nat) (countsRows : Bool) :
    Alike AnyErrors (fun r r' : String × Compiled => r.1 = r'.1 ∧ r.2.shape = r'.2.shape ∧
        Option.Rel (SameText d d') r.2.statement r'.2.statement)
      (d.compile embedded defaultSize countsRows) (d'.compile embedded defaultSize countsRows) := by
  have hcompile : Alike AnyErrors (fun r r' : String × Compiled => r.1 = r'.1 ∧ r.2.IsLike r'.2)
      (d.compile embedded defaultSize countsRows)
      (d'.compile embedded defaultSize countsRows) := by
    refine (resolve_alike h embedded defaultSize).bind fun n n' ⟨hn, hq⟩ => ?_
    exact (Query.compile_alike hq countsRows).bind fun c c' hc => .done ⟨hn, hc⟩
  refine hcompile.imp fun r r' hr hr' ⟨hn, hshape, hsql⟩ => ⟨hn, hshape, ?_⟩
  refine Outcome.rel_imp hsql fun s hs s' hs' hst => ?_
  have hp' := params_eq hr' hs'
  rw [boundPlaces_eq h] at hp'
  exact sameText_of_params h hst (params_eq hr hs) hp'

/-- A search in two columns for a value. -/
def searchFor (value : Json) : Descriptor :=
  { (default : Descriptor) with
    id := some "q", tables := some (.one "books"), value := some value
    dataFields := some (.many [.plain "title", .plain "author"]) }

/-- A value that looks like a statement compiles as any other does. -/
theorem compile_alike_of_hostile_value :
    let d := searchFor (.array [.string "dune", .null, .bool true, .string ""])
    let d' := searchFor (.array [.string "'; DROP TABLE books; --", .null, .bool false, .string ""])
    d'.compile none 10 false = .ok ("q", ⟨some ⟨"SELECT * FROM books " ++
        "WHERE title LIKE $1 OR title LIKE $2 OR author LIKE $1 OR author LIKE $2 " ++
        "ORDER BY title asc LIMIT 10", [.text "%'; DROP TABLE books; --%", .text "%false%"]⟩,
      .search⟩) ∧
    Alike AnyErrors (fun r r' : String × Compiled => r.1 = r'.1 ∧ r.2.shape = r'.2.shape ∧
        Option.Rel (SameText d d') r.2.statement r'.2.statement)
      (d.compile none 10 false) (d'.compile none 10 false) := by
  refine ⟨by decide +kernel, compile_alike_of_differInValue ⟨rfl, .some ?_, ?_⟩ none 10 false⟩
  · decide
  · intro hk
    cases hk

end Descriptor

end QueryBatch
