import QueryBatch.Proofs.ConditionSlots

/-! # Where the parameters of a statement come from

The parameters of a statement are the scalars of a value, or its bounds that are texts. Each stands
at a place of the value, and the places are in the order of the parameters.

* `Place`, `Place.find?`: places in the value of a descriptor.
* `Descriptor.boundPlaces`, `Descriptor.boundAt`: where a bound value stands, and how it is bound.
* `Descriptor.params_eq`: **the parameters of a statement** are what is bound at these places.
-/

namespace QueryBatch

/-! ### Where the bound values come from -/

/-- The scalar of a value that counts as one: null and the empty text do not. -/
def Json.scalar? : Json → Option Scalar
  | .string s => if s.isEmpty then none else some (.text s)
  | .number n => some (.number n)
  | .bool b => some (.bool b)
  | .null | .array _ | .object _ => none

/-- The scalars of the items of an array, or that of another value. -/
def Json.scalars : Json → List Scalar
  | .array items => items.filterMap scalar?
  | j => j.scalar?.toList

/-- **Places** in the value of a descriptor. -/
inductive Place
  | whole
  | item (index : Nat)
  | key (name : String)
deriving DecidableEq

/-- What stands at a place of a value. -/
def Place.find? : Place → Json → Option Json
  | .whole, j => some j
  | .item i, .array items => items[i]?
  | .item _, _ => none
  | .key k, j => j.field? k

/-- The places of a value at which something may be bound. -/
def Kind.places : Kind → Json → List Place
  | .search, .array items | .suggestion, .array items => (List.range items.length).map .item
  | .search, _ | .suggestion, _ => [.whole]
  | .range, _ => [.key "start", .key "end"]
  | .term, _ => []

/-- How the value at a place is bound: as a pattern in a search, as it is in a range. -/
def Kind.binding : Kind → Json → Option Scalar
  | .search, j | .suggestion, j => j.scalar?.map pattern
  | .range, j => (j.string?.filter fun s => !s.isEmpty).map .text
  | .term, _ => none

namespace Descriptor

/-- What stands at a place of the value of a descriptor. -/
def valueAt (d : Descriptor) (p : Place) : Option Json := d.value.bind p.find?

/-- What is bound for a place of the value of a descriptor. -/
def boundAt (d : Descriptor) (p : Place) : Option Scalar :=
  (d.valueAt p).bind d.kindOrDefault.binding

/-- **The bound places** of a descriptor, in the order of its parameters. A statement written by
hand binds nothing. -/
def boundPlaces (d : Descriptor) : List Place :=
  if d.statement?.isSome then []
  else ((d.value.map d.kindOrDefault.places).getD []).filter fun p => (d.boundAt p).isSome

end Descriptor

theorem map_some_filterMap {α β : Type} (f : α → Option β) (l : List α) :
    (l.filterMap f).map some = (l.filter fun a => (f a).isSome).map f := by
  induction l with
  | nil => rfl
  | cons a r ih => cases h : f a <;> simp [h, ih]

theorem filterMap_range {α β : Type} (f : α → Option β) (l : List α) :
    (List.range l.length).filterMap (fun i => l[i]?.bind f) = l.filterMap f := by
  induction l with
  | nil => rfl
  | cons a r ih =>
    rw [List.length_cons, List.range_succ_eq_map, List.filterMap_cons, List.filterMap_cons,
      List.filterMap_map, ← ih]
    rfl

theorem Scalar.parse_eq_ok {j : Json} {o : Option Scalar} (h : Scalar.parse j = .ok o) :
    o = j.scalar? := by
  cases j <;> cases h <;> rfl

theorem Scalar.mapM_parse_eq_ok {items : List Json} {found : List (Option Scalar)}
    (h : items.mapM Scalar.parse = .ok found) : found = items.map Json.scalar? := by
  induction items generalizing found with
  | nil => cases h; rfl
  | cons j r ih =>
    rw [List.mapM_cons] at h
    obtain ⟨o, ho, h⟩ := Outcome.bind_eq_ok.mp h
    obtain ⟨rest, hr, h⟩ := Outcome.bind_eq_ok.mp h
    cases h
    rw [List.map_cons, Scalar.parse_eq_ok ho, ih hr]

theorem Match.parse_eq_ok {j : Json} {m : Option Match} (h : Match.parse (some j) = .ok m) :
    (m.map Match.scalars).getD [] = j.scalars := by
  cases j with
  | array items =>
    obtain ⟨found, hf, h⟩ := Outcome.bind_eq_ok.mp h
    have hl : found.filterMap id = items.filterMap Json.scalar? := by
      rw [Scalar.mapM_parse_eq_ok hf, List.filterMap_map]; rfl
    rw [hl] at h
    cases h
    rw [Json.scalars]
    split
    · next he => simp [List.isEmpty_iff.mp he]
    · rfl
  | null | bool | number | string | object =>
    obtain ⟨o, ho, h⟩ := Outcome.bind_eq_ok.mp h
    cases h
    rw [Json.scalars, ← Scalar.parse_eq_ok ho]
    · cases o <;> rfl
    · simp

theorem Bound.parse_eq_ok {side : String} {j : Option Json} {b : Option Bound}
    (h : Bound.parse side j = .ok b) :
    b.bind Bound.text? = (j.bind Json.string?).filter fun s => !s.isEmpty := by
  rcases j with _ | j
  · cases h; rfl
  · cases j with
    | string s =>
      cases h
      by_cases he : s.isEmpty <;> simp [Json.string?, he, Bound.text?, Option.filter]
    | null => cases h; rfl
    | number n => cases h; rfl
    | bool | array | object => cases h

theorem Range.parse_eq_ok {j : Json} {r : Option Range} (h : Range.parse (some j) = .ok r) :
    (r.map Range.texts).getD [] =
      (((j.field? "start").bind Json.string?).filter fun s => !s.isEmpty).toList ++
        (((j.field? "end").bind Json.string?).filter fun s => !s.isEmpty).toList := by
  cases j with
  | null => cases h; rfl
  | object fields =>
    obtain ⟨start, hs, h⟩ := Outcome.bind_eq_ok.mp h
    obtain ⟨stop, ht, h⟩ := Outcome.bind_eq_ok.mp h
    cases h
    have hs := Bound.parse_eq_ok hs
    have ht := Bound.parse_eq_ok ht
    simp only [Json.field?, Json.object?, Option.bind_some, ← hs, ← ht]
    cases start <;> cases stop <;> rfl
  | bool | number | string | array => cases h

namespace Descriptor

variable {d : Descriptor} {embedded : Option (List Binary64)} {defaultSize : Nat}

theorem filterMap_boundAt_search {m : Option Match}
    (hk : d.kindOrDefault = .search ∨ d.kindOrDefault = .suggestion)
    (hm : Match.parse d.value = .ok m) :
    ((d.value.map d.kindOrDefault.places).getD []).filterMap d.boundAt =
      ((m.map Match.scalars).getD []).map pattern := by
  have hb : d.kindOrDefault.binding = fun j => j.scalar?.map pattern := by
    rcases hk with hk | hk <;> rw [hk] <;> rfl
  cases hv : d.value with
  | none => rw [hv] at hm; cases hm; rfl
  | some j =>
    rw [hv] at hm
    have hs := Match.parse_eq_ok hm
    have hat : d.boundAt = fun p => (p.find? j).bind fun j => j.scalar?.map pattern := by
      funext p; simp [boundAt, valueAt, hv, hb]
    cases j with
    | array items =>
      have hp : d.kindOrDefault.places (.array items) = (List.range items.length).map .item := by
        rcases hk with hk | hk <;> rw [hk] <;> rfl
      rw [hs, Json.scalars, hat, Option.map_some, Option.getD_some, hp, List.filterMap_map,
        List.map_filterMap]
      exact filterMap_range (fun j => j.scalar?.map pattern) items
    | null | bool | number | string | object =>
      have hp : ∀ j, (∀ l, j ≠ Json.array l) → d.kindOrDefault.places j = [.whole] := by
        intro j hj
        rcases hk with hk | hk <;> rw [hk] <;> cases j <;> first | rfl | exact absurd rfl (hj _)
      rw [hs, Json.scalars, hat, Option.map_some, Option.getD_some, hp _ (by simp)]
      · simp only [List.filterMap_cons, Place.find?, Option.bind_some, List.filterMap_nil]
        cases Json.scalar? _ <;> rfl
      · simp

theorem filterMap_boundAt_range {r : Option Range} (hk : d.kindOrDefault = .range)
    (hm : Range.parse d.value = .ok r) :
    ((d.value.map d.kindOrDefault.places).getD []).filterMap d.boundAt =
      ((r.map Range.texts).getD []).map .text := by
  cases hv : d.value with
  | none => rw [hv] at hm; cases hm; rfl
  | some j =>
    rw [hv] at hm
    have hat : ∀ k, d.boundAt (.key k) =
        (((j.field? k).bind Json.string?).filter fun s => !s.isEmpty).map .text := by
      intro k
      simp only [boundAt, valueAt, hv, hk, Option.bind_some, Place.find?]
      cases j.field? k <;> rfl
    rw [Range.parse_eq_ok hm, hk]
    simp only [Kind.places, Option.map_some, Option.getD_some, List.filterMap_cons,
      List.filterMap_nil, hat]
    cases ((j.field? "start").bind Json.string?).filter fun s => !s.isEmpty <;>
      cases ((j.field? "end").bind Json.string?).filter fun s => !s.isEmpty <;> rfl

/-- **The parameters of a statement** are what is bound at the bound places of the value, in
order. -/
theorem params_eq {countsRows : Bool} {r : String × Compiled} {s : Statement}
    (h : d.compile embedded defaultSize countsRows = .ok r) (hs : r.2.statement = some s) :
    s.params.map some = d.boundPlaces.map d.boundAt := by
  obtain ⟨-, q, -, hq, hc⟩ := compile_eq_ok h
  rw [(Query.statement_eq hc hs).2, boundPlaces]
  cases hq with
  | written hw => simp [hw, Query.bound]
  | term hw hk _ =>
    cases hv : d.value <;> simp [hw, Query.bound, hk, Kind.places]
  | search hw hk _ _ _ hm =>
    rw [hw, Option.isSome_none, if_neg (by simp), ← map_some_filterMap,
      filterMap_boundAt_search hk hm]
    rfl
  | range hw hk hm =>
    rw [hw, Option.isSome_none, if_neg (by simp), ← map_some_filterMap,
      filterMap_boundAt_range hk hm]
    rfl

end Descriptor

end QueryBatch
