/-!
# Keyed lists

Values under text keys, listed in the order of the keys. A later value under the same key replaces
an earlier one. JSON objects, rows and the answer of a batch are all of this form.

* `Keyed.get?`, `Keyed.insert`, `Keyed.erase`: the operations, each with a lemma on `get?`.
* `Keyed.ofList`: the last value of each key; `Keyed.get?_ofList`: of distinct keys each value.
* `Keyed.IsSorted`: the keys stand in their order; `Keyed.isSorted_ofList`,
  `Keyed.ofList_eq_of_perm`: what a list is put in order to.
-/

namespace QueryBatch

/-- **Keyed lists.** -/
abbrev Keyed (α : Type) := List (String × α)

namespace Keyed

variable {α : Type}

def get? (k : String) : Keyed α → Option α
  | [] => none
  | (k', v) :: r => if k = k' then some v else get? k r

/-- Puts a value under a key, before the first greater key. -/
def insert (k : String) (v : α) : Keyed α → Keyed α
  | [] => [(k, v)]
  | (k', v') :: r =>
    if k = k' then (k, v) :: r
    else if k < k' then (k, v) :: (k', v') :: r
    else (k', v') :: insert k v r

def erase (k : String) (l : Keyed α) : Keyed α := l.filter fun p => p.1 != k

/-- The last value of each key. -/
def ofList (l : List (String × α)) : Keyed α := l.foldl (fun m p => insert p.1 p.2 m) []

def keys (l : Keyed α) : List String := l.map Prod.fst

def contains (k : String) (l : Keyed α) : Bool := (get? k l).isSome

@[simp] theorem get?_nil (k : String) : get? k ([] : Keyed α) = none := rfl

@[simp] theorem get?_insert_self (k : String) (v : α) (l : Keyed α) :
    get? k (insert k v l) = some v := by
  fun_induction insert k v l <;> simp_all [get?]

@[simp] theorem get?_insert_of_ne {k k' : String} (h : k' ≠ k) (v : α) (l : Keyed α) :
    get? k' (insert k v l) = get? k' l := by
  fun_induction insert k v l <;> simp_all [get?]

theorem get?_insert (k k' : String) (v : α) (l : Keyed α) :
    get? k' (insert k v l) = if k' = k then some v else get? k' l := by
  by_cases h : k' = k
  · subst h
    simp
  · simp [h]

theorem get?_eq_none_iff {k : String} {l : Keyed α} : get? k l = none ↔ k ∉ l.map Prod.fst := by
  induction l with
  | nil => simp
  | cons p r ih =>
    by_cases h : k = p.1
    · simp [get?, h]
    · simp [get?, h, ih]

theorem get?_of_mem {k : String} {v : α} {l : Keyed α} (hk : (l.map Prod.fst).Nodup)
    (h : (k, v) ∈ l) : get? k l = some v := by
  induction l with
  | nil => cases h
  | cons p r ih =>
    obtain ⟨hp, hr⟩ := List.nodup_cons.mp hk
    rcases List.mem_cons.mp h with rfl | h
    · simp [get?]
    · have hne : k ≠ p.1 := by
        rintro rfl
        exact hp (List.mem_map.mpr ⟨_, h, rfl⟩)
      rw [get?, if_neg hne, ih hr h]

theorem mem_of_get?_eq_some {k : String} {v : α} {l : Keyed α} (h : get? k l = some v) :
    (k, v) ∈ l := by
  induction l with
  | nil => cases h
  | cons p r ih =>
    rw [get?] at h
    split at h
    · next hk =>
      cases h
      subst hk
      exact List.mem_cons_self
    · exact List.mem_cons_of_mem p (ih h)

theorem get?_eq_some_iff {k : String} {v : α} {l : Keyed α} (hk : (l.map Prod.fst).Nodup) :
    get? k l = some v ↔ (k, v) ∈ l := ⟨mem_of_get?_eq_some, get?_of_mem hk⟩

theorem get?_append (k : String) (l m : Keyed α) : get? k (l ++ m) = (get? k l).or (get? k m) := by
  induction l with
  | nil => rfl
  | cons p r ih =>
    rw [List.cons_append, get?, get?, ih]
    split <;> rfl

theorem get?_foldl_insert (k : String) {l : List (String × α)} (hk : (l.map Prod.fst).Nodup)
    (m : Keyed α) :
    get? k (l.foldl (fun m p => insert p.1 p.2 m) m) = (get? k l).or (get? k m) := by
  induction l generalizing m with
  | nil => rfl
  | cons p r ih =>
    obtain ⟨hp, hr⟩ := List.nodup_cons.mp hk
    rw [List.foldl_cons, ih hr]
    by_cases h : k = p.1
    · subst h
      rw [get?_eq_none_iff.mpr hp, get?_insert_self, get?, if_pos rfl]
      rfl
    · rw [get?_insert_of_ne h, get?, if_neg h]

theorem get?_ofList (k : String) {l : List (String × α)} (hk : (l.map Prod.fst).Nodup) :
    get? k (ofList l) = get? k l := by
  rw [ofList, get?_foldl_insert k hk, get?_nil, Option.or_none]

/-! ### Keys -/

theorem perm_insert {k : String} {v : α} {l : Keyed α} (h : k ∉ l.map Prod.fst) :
    (insert k v l).Perm ((k, v) :: l) := by
  induction l with
  | nil => exact .refl _
  | cons p r ih =>
    obtain ⟨k', v'⟩ := p
    rw [List.map_cons, List.mem_cons, not_or] at h
    rw [insert, if_neg h.1]
    split
    · exact .refl _
    · exact ((ih h.2).cons _).trans (.swap _ _ _)

theorem perm_foldl_insert {l : List (String × α)} {m : Keyed α}
    (h : ((l ++ m).map Prod.fst).Nodup) :
    (l.foldl (fun m p => insert p.1 p.2 m) m).Perm (l ++ m) := by
  induction l generalizing m with
  | nil => exact .refl _
  | cons p r ih =>
    have hnew : p.1 ∉ m.map Prod.fst := by
      rw [List.cons_append, List.map_cons, List.nodup_cons, List.map_append, List.mem_append] at h
      exact fun hm => h.1 (.inr hm)
    have hperm : (r ++ insert p.1 p.2 m).Perm (p :: r ++ m) :=
      ((perm_insert hnew).append_left r).trans List.perm_middle
    rw [List.foldl_cons]
    exact (ih ((hperm.map Prod.fst).nodup_iff.mpr h)).trans hperm

theorem perm_ofList {l : List (String × α)} (h : (l.map Prod.fst).Nodup) : (ofList l).Perm l := by
  have hnil : ((l ++ []).map Prod.fst).Nodup := by rwa [List.append_nil]
  have hperm := perm_foldl_insert hnil
  rwa [List.append_nil] at hperm

/-! ### Order -/

/-- The keys stand in their order. -/
def IsSorted (l : Keyed α) : Prop := l.Pairwise fun p q => p.1 < q.1

theorem fst_eq_or_mem_of_mem_insert {k : String} {v : α} {p : String × α} {l : Keyed α}
    (h : p ∈ insert k v l) : p.1 = k ∨ p ∈ l := by
  induction l with
  | nil => exact .inl (by rw [List.mem_singleton.mp h])
  | cons q r ih =>
    obtain ⟨k', v'⟩ := q
    rw [insert] at h
    split at h
    · rcases List.mem_cons.mp h with rfl | h
      · exact .inl rfl
      · exact .inr (List.mem_cons_of_mem _ h)
    · split at h
      · rcases List.mem_cons.mp h with rfl | h
        · exact .inl rfl
        · exact .inr h
      · rcases List.mem_cons.mp h with rfl | h
        · exact .inr List.mem_cons_self
        · exact (ih h).imp_right (List.mem_cons_of_mem _)

theorem IsSorted.insert {l : Keyed α} (h : IsSorted l) (k : String) (v : α) :
    IsSorted (insert k v l) := by
  induction l with
  | nil => exact List.pairwise_singleton _ _
  | cons p r ih =>
    obtain ⟨k', v'⟩ := p
    obtain ⟨hp, hr⟩ := List.pairwise_cons.mp h
    rw [Keyed.insert]
    split
    · next hk => exact List.pairwise_cons.mpr ⟨fun q hq => hk ▸ hp q hq, hr⟩
    · next hne =>
      split
      · next hlt =>
        refine List.pairwise_cons.mpr ⟨fun q hq => ?_, h⟩
        rcases List.mem_cons.mp hq with rfl | hq
        · exact hlt
        · exact String.lt_trans hlt (hp q hq)
      · next hnlt =>
        have hlt : k' < k := Std.lt_of_le_of_ne (String.not_lt.mp hnlt) (Ne.symm hne)
        refine List.pairwise_cons.mpr ⟨fun q hq => ?_, ih hr⟩
        rcases fst_eq_or_mem_of_mem_insert hq with rfl | hq
        · exact hlt
        · exact hp q hq

theorem isSorted_ofList (l : List (String × α)) : IsSorted (ofList l) := by
  have hfold : ∀ m : Keyed α, IsSorted m →
      IsSorted (l.foldl (fun m p => Keyed.insert p.1 p.2 m) m) := by
    induction l with
    | nil => exact fun m hm => hm
    | cons p r ih => exact fun m hm => ih _ (hm.insert p.1 p.2)
  exact hfold [] .nil

theorem IsSorted.nodup {l : Keyed α} (h : IsSorted l) : (l.map Prod.fst).Nodup := by
  refine List.pairwise_map.mpr (List.Pairwise.imp ?_ h)
  intro p q hlt heq
  rw [heq] at hlt
  exact String.lt_irrefl _ hlt

theorem IsSorted.eq_of_perm {l m : Keyed α} (hl : IsSorted l) (hm : IsSorted m) (h : l.Perm m) :
    l = m :=
  h.eq_of_pairwise (fun _ _ _ _ hlt hgt => absurd (String.lt_trans hlt hgt) (String.lt_irrefl _))
    hl hm

/-- The order in which distinct keys come makes no difference. -/
theorem ofList_eq_of_perm {l m : List (String × α)} (h : l.Perm m)
    (hl : (l.map Prod.fst).Nodup) : ofList l = ofList m := by
  have hm : (m.map Prod.fst).Nodup := (h.map Prod.fst).nodup_iff.mp hl
  exact (isSorted_ofList l).eq_of_perm (isSorted_ofList m)
    ((perm_ofList hl).trans (h.trans (perm_ofList hm).symm))

end Keyed

end QueryBatch
