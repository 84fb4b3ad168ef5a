import QueryBatch.Proofs.Outcome
import QueryBatch.Sql.Compile

/-! # What a descriptor resolves to

A descriptor that resolves has relations, all its names are safe, and its query is one of four: the
statement written by hand if there is one, else a search, a term query or a range query by its
kind, with every part taken over from the descriptor and the value in the shape that the kind asks
for.

* `Descriptor.ResolvesTo`: the four queries of a descriptor.
* `Descriptor.resolve_eq_ok`, `Descriptor.compile_eq_ok`: **a descriptor that resolves or compiles
  has passed its checks**.
* `Descriptor.vectorOrder?`, `Descriptor.HasVectorOrder`: the order by distance of a search, and
  whether there is one.
* `Query.names`: the names that stand in a statement; `Descriptor.ResolvesTo.mem_names`: they are
  names of the descriptor.
-/

namespace QueryBatch

namespace Descriptor

/-- **The queries of a descriptor.** -/
inductive ResolvesTo (d : Descriptor) (embedded : Option (List Binary64)) (defaultSize : Nat) :
    Query → Prop
  | written {s : String} (hs : d.statement? = some s) :
    ResolvesTo d embedded defaultSize (.written ⟨s, d.kindOrDefault, d.fieldNames.head?⟩)
  | search {sortBy : SortOrder} {vector : Option VectorOrder} {value : Option Match}
    (hs : d.statement? = none)
    (hk : d.kindOrDefault = .search ∨ d.kindOrDefault = .suggestion)
    (hf : ∀ f ∈ d.includedFields, Identifier.isSafe f = true)
    (ho : ∀ f ∈ d.sortField, Identifier.isSafe f = true)
    (hv : d.resolveVector embedded = .ok vector) (hm : Match.parse d.value = .ok value) :
    ResolvesTo d embedded defaultSize (.search {
      tables := d.tableNames, includeFields := d.includedFields, dataFields := d.fieldNames
      value, connective := d.connective.getD .or, sortField := d.sortField, sortBy, vector
      condition := d.condition, size := d.size.getD defaultSize, offset := d.offset })
  | term {value : Option Match} (hs : d.statement? = none) (hk : d.kindOrDefault = .term)
    (hm : Match.parse d.value = .ok value) :
    ResolvesTo d embedded defaultSize (.term {
      tables := d.tableNames, dataFields := d.fieldNames, condition := d.condition
      aggregationSize := d.aggregationSize })
  | range {value : Option Range} (hs : d.statement? = none) (hk : d.kindOrDefault = .range)
    (hm : Range.parse d.value = .ok value) :
    ResolvesTo d embedded defaultSize (.range {
      tables := d.tableNames, dataFields := d.fieldNames, value
      aggregations := d.aggregations.getD [], interval := d.interval, condition := d.condition })

variable {d : Descriptor} {embedded : Option (List Binary64)} {defaultSize : Nat}

theorem resolveTables_eq_ok_iff {tables : List String} : d.resolveTables = .ok tables ↔
    tables = d.tableNames ∧ d.tableNames ≠ [] ∧
      ∀ t ∈ d.tableNames, Identifier.isSafe t = true := by
  unfold resolveTables
  constructor
  · intro h
    by_cases he : d.tableNames = []
    · simp [he, bind, Except.bind, throw, throwThe, MonadExceptOf.throw] at h
    · rw [if_neg (by simpa using he)] at h
      obtain ⟨⟨⟩, hc, h⟩ := Outcome.bind_eq_ok.mp h
      cases h
      exact ⟨rfl, he, Identifier.checkAll_eq_ok_iff.mp hc⟩
  · rintro ⟨rfl, hne, hsafe⟩
    rw [if_neg (by simpa using hne)]
    exact Outcome.bind_eq_ok.mpr ⟨(), Identifier.checkAll_eq_ok_iff.mpr hsafe, rfl⟩

theorem checkOptional_eq_ok_iff {name : Option String} : Identifier.checkOptional name = .ok () ↔
    ∀ f ∈ name, Identifier.isSafe f = true := by
  cases name with
  | none => exact iff_of_true rfl nofun
  | some f => simp [Identifier.checkOptional]

theorem exists_resolveOrder_iff : (∃ o, d.resolveOrder = .ok o) ↔
    ∀ word ∈ d.sortBy, ∃ o, SortOrder.parse word = .ok o := by
  unfold resolveOrder
  cases d.sortBy with
  | none => exact iff_of_true ⟨.asc, rfl⟩ nofun
  | some word => simp

theorem effectiveVector_of_own (h : d.vector ≠ none) (embedded' : Option (List Binary64)) :
    d.effectiveVector embedded = d.effectiveVector embedded' := by
  obtain ⟨vector, hv⟩ := Option.ne_none_iff_exists'.mp h
  rw [effectiveVector, effectiveVector, hv, Option.some_or, Option.some_or]

/-- The order by distance of a search, whether or not the name of its column is safe. -/
def vectorOrder? (d : Descriptor) (embedded : Option (List Binary64)) : Option VectorOrder :=
  match d.vectorField, d.effectiveVector embedded with
  | some field, some (x :: r) => some ⟨field, x :: r⟩
  | _, _ => none

theorem eq_vectorOrder? {vector : Option VectorOrder}
    (h : d.resolveVector embedded = .ok vector) : vector = d.vectorOrder? embedded := by
  unfold resolveVector at h
  unfold vectorOrder?
  generalize d.vectorField = field at h
  generalize d.effectiveVector embedded = found at h
  rcases field with _ | field
  · cases h
    rfl
  · rcases found with _ | _ | ⟨x, r⟩
    · cases h
      rfl
    · cases h
      rfl
    · obtain ⟨⟨⟩, -, h⟩ := Outcome.bind_eq_ok.mp h
      cases h
      rfl

/-- **A search is ordered by distance**: it has a vector column, and its vector, which is its own if
it has one and else the one fetched for it, has a component. -/
def HasVectorOrder (d : Descriptor) (embedded : Option (List Binary64)) : Prop :=
  d.vectorField ≠ none ∧ ∃ vector, d.vector.or embedded = some vector ∧ vector ≠ []

theorem isSome_vectorOrder?_iff : (d.vectorOrder? embedded).isSome ↔ d.HasVectorOrder embedded := by
  unfold vectorOrder? effectiveVector HasVectorOrder
  rcases d.vectorField with _ | field
  · simp
  · rcases d.vector.or embedded with _ | _ | ⟨x, r⟩ <;> simp

instance (d : Descriptor) (embedded : Option (List Binary64)) :
    Decidable (d.HasVectorOrder embedded) :=
  decidable_of_iff _ isSome_vectorOrder?_iff

theorem vectorOrder?_eq_none (h : ¬ d.HasVectorOrder embedded) :
    d.vectorOrder? embedded = none := by
  rwa [← isSome_vectorOrder?_iff, Option.not_isSome_iff_eq_none] at h

theorem resolveSearch_eq_ok {tables : List String} {q : SearchQuery}
    (h : d.resolveSearch tables embedded defaultSize = .ok q) :
    (∀ f ∈ d.includedFields, Identifier.isSafe f = true) ∧
      (∀ f ∈ d.sortField, Identifier.isSafe f = true) ∧
      ∃ sortBy vector value, d.resolveVector embedded = .ok vector ∧
        Match.parse d.value = .ok value ∧ q = {
          tables, includeFields := d.includedFields, dataFields := d.fieldNames, value
          connective := d.connective.getD .or, sortField := d.sortField, sortBy, vector
          condition := d.condition, size := d.size.getD defaultSize, offset := d.offset } := by
  unfold resolveSearch at h
  obtain ⟨⟨⟩, hf, h⟩ := Outcome.bind_eq_ok.mp h
  obtain ⟨⟨⟩, ho, h⟩ := Outcome.bind_eq_ok.mp h
  obtain ⟨sortBy, -, h⟩ := Outcome.bind_eq_ok.mp h
  obtain ⟨vector, hv, h⟩ := Outcome.bind_eq_ok.mp h
  obtain ⟨value, hm, h⟩ := Outcome.bind_eq_ok.mp h
  cases h
  exact ⟨Identifier.checkAll_eq_ok_iff.mp hf, checkOptional_eq_ok_iff.mp ho, sortBy, vector, value,
    hv, hm, rfl⟩

theorem resolveKind_of_search (hk : d.kindOrDefault = .search ∨ d.kindOrDefault = .suggestion)
    (tables : List String) : d.resolveKind tables embedded defaultSize =
      (d.resolveSearch tables embedded defaultSize).map .search := by
  unfold resolveKind
  rcases hk with hk | hk <;> rw [hk]

theorem resolveKind_eq_ok {q : Query} (hs : d.statement? = none)
    (h : d.resolveKind d.tableNames embedded defaultSize = .ok q) :
    d.ResolvesTo embedded defaultSize q := by
  have hsearch : (d.kindOrDefault = .search ∨ d.kindOrDefault = .suggestion) →
      d.ResolvesTo embedded defaultSize q := by
    intro hk
    rw [resolveKind_of_search hk] at h
    obtain ⟨s, hq, rfl⟩ := Outcome.map_eq_ok.mp h
    obtain ⟨hf, ho, sortBy, vector, value, hv, hm, rfl⟩ := resolveSearch_eq_ok hq
    exact .search hs hk hf ho hv hm
  cases hk : d.kindOrDefault with
  | search => exact hsearch (.inl hk)
  | suggestion => exact hsearch (.inr hk)
  | term =>
    rw [resolveKind, hk] at h
    obtain ⟨t, hq, rfl⟩ := Outcome.map_eq_ok.mp h
    obtain ⟨value, hm, hq⟩ := Outcome.bind_eq_ok.mp hq
    cases hq
    exact .term hs hk hm
  | range =>
    rw [resolveKind, hk] at h
    obtain ⟨t, hq, rfl⟩ := Outcome.map_eq_ok.mp h
    obtain ⟨value, hm, hq⟩ := Outcome.bind_eq_ok.mp hq
    cases hq
    exact .range hs hk hm

/-- **A descriptor that resolves**: it has relations, its relations and columns are safe, and its
query is one of the four. -/
theorem resolve_eq_ok {r : NamedQuery} (h : d.resolve embedded defaultSize = .ok r) :
    r.name = d.name ∧ d.tableNames ≠ [] ∧ (∀ t ∈ d.tableNames, Identifier.isSafe t = true) ∧
      (∀ f ∈ d.fieldNames, Identifier.isSafe f = true) ∧
      d.ResolvesTo embedded defaultSize r.query := by
  unfold resolve at h
  obtain ⟨tables, ht, h⟩ := Outcome.bind_eq_ok.mp h
  obtain ⟨⟨⟩, hf, h⟩ := Outcome.bind_eq_ok.mp h
  obtain ⟨rfl, hne, hsafe⟩ := resolveTables_eq_ok_iff.mp ht
  have hfields := Identifier.checkAll_eq_ok_iff.mp hf
  cases hs : d.statement? with
  | none =>
    simp only [hs] at h
    obtain ⟨q, hq, h⟩ := Outcome.bind_eq_ok.mp h
    cases h
    exact ⟨rfl, hne, hsafe, hfields, resolveKind_eq_ok hs hq⟩
  | some s =>
    simp only [hs] at h
    cases h
    exact ⟨rfl, hne, hsafe, hfields, .written hs⟩

theorem compile_eq_ok {countsRows : Bool} {r : String × Compiled}
    (h : d.compile embedded defaultSize countsRows = .ok r) :
    r.1 = d.name ∧ ∃ q, d.resolve embedded defaultSize = .ok ⟨d.name, q⟩ ∧
      d.ResolvesTo embedded defaultSize q ∧ q.compile countsRows = .ok r.2 := by
  unfold compile at h
  obtain ⟨⟨name, q⟩, hr, h⟩ := Outcome.bind_eq_ok.mp h
  obtain ⟨c, hc, h⟩ := Outcome.bind_eq_ok.mp h
  cases h
  obtain ⟨hn, -, -, -, hq⟩ := resolve_eq_ok hr
  obtain rfl : name = d.name := hn
  exact ⟨rfl, q, hr, hq, hc⟩

theorem resolveVector_eq_ok {v : VectorOrder} (h : d.resolveVector embedded = .ok (some v)) :
    d.vectorField = some v.field ∧ Identifier.isSafe v.field = true := by
  unfold resolveVector at h
  split at h
  · next field _ _ hf _ =>
    obtain ⟨⟨⟩, hc, h⟩ := Outcome.bind_eq_ok.mp h
    cases h
    exact ⟨hf, Identifier.check_eq_ok_iff.mp hc⟩
  · cases h

end Descriptor

/-! ### Names in a statement -/

/-- The names that stand in the statement of a query. -/
def Query.names : Query → List String
  | .written _ => []
  | .search q =>
    q.tables ++ q.includeFields ++ q.dataFields ++ q.sortField.toList ++
      (q.vector.map VectorOrder.field).toList
  | .term q => q.tables ++ q.dataFields
  | .range q => q.tables ++ q.dataFields

/-- The names that a descriptor gives. -/
def Descriptor.names (d : Descriptor) : List String :=
  d.tableNames ++ d.fieldNames ++ d.includeFields.getD [] ++ d.sortField.toList ++
    d.vectorField.toList

theorem Descriptor.mem_includedFields {d : Descriptor} {s : String} (h : s ∈ d.includedFields) :
    s = "*" ∨ s ∈ d.includeFields.getD [] := by
  unfold includedFields at h
  split at h
  · exact .inl (List.mem_singleton.mp h)
  · next l hl =>
    split at h
    · exact .inl (List.mem_singleton.mp h)
    · right; rw [hl]; exact h

/-- **The names in a statement** are names of the descriptor, or stand for all columns. -/
theorem Descriptor.ResolvesTo.mem_names {d : Descriptor} {embedded : Option (List Binary64)}
    {defaultSize : Nat} {q : Query} (h : d.ResolvesTo embedded defaultSize q) {s : String}
    (hs : s ∈ q.names) : s = "*" ∨ s ∈ d.names := by
  cases h with
  | written => simp [Query.names] at hs
  | search _ _ _ _ hv _ =>
    simp only [Query.names, List.mem_append, Option.mem_toList, Option.map_eq_some_iff] at hs
    simp only [Descriptor.names, List.mem_append, Option.mem_toList]
    rcases hs with (((hs | hs) | hs) | hs) | ⟨v, rfl, rfl⟩
    · exact .inr (.inl (.inl (.inl (.inl hs))))
    · exact (mem_includedFields hs).imp_right fun h => .inl (.inl (.inr h))
    · exact .inr (.inl (.inl (.inl (.inr hs))))
    · exact .inr (.inl (.inr hs))
    · exact .inr (.inr (resolveVector_eq_ok hv).1)
  | term | range =>
    simp only [Query.names, List.mem_append] at hs
    simp only [Descriptor.names, List.mem_append]
    rcases hs with hs | hs
    · exact .inr (.inl (.inl (.inl (.inl hs))))
    · exact .inr (.inl (.inl (.inl (.inr hs))))

end QueryBatch
