import Mathlib.Tactic.IntervalCases
import QueryBatch.Descriptor.Batch
import QueryBatch.Proofs.Outcome

/-! # Accepted batches

A value *stands for* a descriptor if it breaks no rule, is decoded to the descriptor, and does not
take the name under which an answer keeps its own data. A batch is accepted if all of its values
stand for descriptors, no two of them for descriptors of one name. Otherwise each position has a
message. A value counts for the names behind it if it stands for a descriptor, whether or not it is
blamed for its own name.

* `Batch.StandsFor`, `Batch.WellFormed`: values that are in order, and batches of them.
* `Batch.IsBlameless`: positions that have no fault.
* `Batch.accept_eq_ok_iff`: **the descriptors of an accepted batch**; `Batch.nodup_names` and
  `Batch.settingsKey_not_mem_names` say of their names what later stages rely on.
* `Batch.accepts_or_blames`: **what is accepted, and what is said of anything else**.
-/

namespace QueryBatch

open Outcome

/-! ### Texts of faults -/

theorem Schema.Problem.message_ne_empty (p : Schema.Problem) : p.message ≠ "" := by
  cases p <;> simp [message, toString]

theorem Json.Mismatch.message_ne_empty (e : Json.Mismatch) : e.message ≠ "" := by
  unfold message
  split <;> simp [toString]

theorem intercalate_ne_empty {separator : String} {l : List String} (hl : l ≠ [])
    (h : ∀ s ∈ l, s ≠ "") : separator.intercalate l ≠ "" := by
  obtain ⟨s, r, rfl⟩ := List.exists_cons_of_ne_nil hl
  have hs := h s List.mem_cons_self
  cases r with
  | nil => rwa [String.intercalate_singleton]
  | cons t r =>
    rw [String.intercalate_cons_cons]
    simp [hs]

namespace Batch

variable {seen : List String} {batch : List Json} {j : Json} {d d' : Descriptor}
  {ds : List Descriptor} {i : Nat}

/-! ### One value -/

/-- **A value stands for a descriptor.** -/
structure StandsFor (j : Json) (d : Descriptor) : Prop where
  unproblematic : Schema.problems j = []
  decoded : Descriptor.decode j = .ok d
  unreserved : d.name ≠ settingsKey

theorem StandsFor.unique (h : StandsFor j d) (h' : StandsFor j d') : d = d' :=
  Except.ok.inj (h.decoded.symm.trans h'.decoded)

theorem inspect_eq_ok_iff : inspect seen j = .ok d ↔ StandsFor j d ∧ d.name ∉ seen := by
  unfold inspect
  constructor
  · intro h
    split at h
    · next hp =>
      split at h
      · cases h
      · next hd =>
        split at h
        · cases h
        · next hu =>
          split at h
          · cases h
          · next hs =>
            cases h
            exact ⟨⟨hp, hd, hu⟩, hs⟩
    · cases h
  · rintro ⟨⟨hp, hd, hu⟩, hs⟩
    simp only [hp, hd, if_neg hu, if_neg hs]

theorem ne_empty_of_inspect {m : String} (h : inspect seen j = .error m) : m ≠ "" := by
  unfold inspect at h
  split at h
  · split at h
    · cases h
      exact Json.Mismatch.message_ne_empty _
    · split at h
      · cases h
        decide
      · split at h
        · cases h
          simp [toString]
        · cases h
  · next problems hp =>
    cases h
    refine intercalate_ne_empty (by simpa using hp) fun s hs => ?_
    obtain ⟨p, -, rfl⟩ := List.mem_map.mp hs
    exact p.message_ne_empty

/-! ### Values in order -/

theorem length_inspectAll (seen : List String) (batch : List Json) :
    (inspectAll seen batch).length = batch.length := by
  induction batch generalizing seen with
  | nil => rfl
  | cons j r ih =>
    rw [inspectAll]
    split <;> simp [ih]

theorem exists_inspect_of_mem {x : Except String Descriptor} (h : x ∈ inspectAll seen batch) :
    ∃ seen' j, x = inspect seen' j := by
  induction batch generalizing seen with
  | nil => exact absurd h List.not_mem_nil
  | cons j r ih =>
    rw [inspectAll] at h
    split at h
    · next hj =>
      rcases List.mem_cons.mp h with rfl | h
      · exact ⟨seen, j, hj.symm⟩
      · exact ih h
    · next hj =>
      rcases List.mem_cons.mp h with rfl | h
      · exact ⟨seen, j, hj.symm⟩
      · exact ih h

theorem messageOf_eq_empty_iff {x : Except String Descriptor} (h : x ∈ inspectAll seen batch) :
    messageOf x = "" ↔ ∃ d, x = .ok d := by
  obtain ⟨seen', j, rfl⟩ := exists_inspect_of_mem h
  cases hx : inspect seen' j with
  | ok d => exact iff_of_true rfl ⟨d, rfl⟩
  | error m =>
    have hm := ne_empty_of_inspect hx
    simp [messageOf, hm]

theorem inspectAll_eq_map_ok_iff : inspectAll seen batch = ds.map .ok ↔
    List.Forall₂ StandsFor batch ds ∧ (ds.map Descriptor.name).Nodup ∧
      ∀ d ∈ ds, d.name ∉ seen := by
  induction batch generalizing seen ds with
  | nil => cases ds <;> simp [inspectAll]
  | cons j r ih =>
    cases ds with
    | nil =>
      rw [inspectAll]
      split <;> simp
    | cons d ds =>
      have hpass : inspectAll seen (j :: r) = (d :: ds).map .ok ↔
          inspect seen j = .ok d ∧ inspectAll (d.name :: seen) r = ds.map .ok := by
        rw [inspectAll]
        cases inspect seen j with
        | error m => simp
        | ok d' =>
          simp only [List.map_cons, List.cons.injEq, Except.ok.injEq]
          exact and_congr_right fun hd => by rw [hd]
      rw [hpass, inspect_eq_ok_iff, ih, List.forall₂_cons, List.map_cons, List.nodup_cons,
        List.forall_mem_cons]
      simp only [List.mem_cons, not_or, List.mem_map, not_exists, not_and]
      constructor
      · rintro ⟨⟨hj, hs⟩, hr, hn, hnew⟩
        exact ⟨⟨hj, hr⟩, ⟨fun d' hd' => (hnew d' hd').1, hn⟩, hs, fun d' hd' => (hnew d' hd').2⟩
      · rintro ⟨⟨hj, hr⟩, ⟨hd, hn⟩, hs, hnew⟩
        exact ⟨⟨hj, hs⟩, hr, hn, fun d' hd' => ⟨hd d' hd', hnew d' hd'⟩⟩

/-- The value at a position passes if it stands for a descriptor whose name is new, and no value
before it stands for a descriptor of this name. -/
theorem getElem?_inspectAll_eq_ok_iff : (inspectAll seen batch)[i]? = some (.ok d) ↔
    ∃ j, batch[i]? = some j ∧ StandsFor j d ∧ d.name ∉ seen ∧
      ∀ j' ∈ batch.take i, ∀ d', StandsFor j' d' → d'.name ≠ d.name := by
  induction batch generalizing seen i with
  | nil => simp [inspectAll]
  | cons j r ih =>
    cases i with
    | zero =>
      have hfirst : (inspectAll seen (j :: r))[0]? = some (inspect seen j) := by
        rw [inspectAll]
        split <;> simp_all
      rw [hfirst, Option.some.injEq, inspect_eq_ok_iff]
      simp
    | succ i =>
      have hbefore : ∀ k, (∀ j' ∈ (j :: r).take (i + 1), ∀ d', StandsFor j' d' → d'.name ≠ k) ↔
          (∀ d', StandsFor j d' → d'.name ≠ k) ∧
            ∀ j' ∈ r.take i, ∀ d', StandsFor j' d' → d'.name ≠ k := fun k => by
        rw [List.take_succ_cons, List.forall_mem_cons]
      -- the name of the first value is taken by it, or was taken before
      have hnew : ∀ seen', (∀ k, k ∉ seen' ↔ k ∉ seen ∧ ∀ d', StandsFor j d' → d'.name ≠ k) →
          ((inspectAll seen' r)[i]? = some (.ok d) ↔ ∃ j', (j :: r)[i + 1]? = some j' ∧
            StandsFor j' d ∧ d.name ∉ seen ∧
            ∀ j' ∈ (j :: r).take (i + 1), ∀ d', StandsFor j' d' → d'.name ≠ d.name) := by
        intro seen' hseen
        rw [ih, List.getElem?_cons_succ]
        simp only [hbefore, hseen, and_assoc]
      rw [inspectAll]
      cases hj : inspect seen j with
      | ok d₀ =>
        obtain ⟨hstands, hd₀⟩ := inspect_eq_ok_iff.mp hj
        refine hnew _ fun k => ?_
        rw [List.mem_cons, not_or, and_comm]
        refine and_congr_right fun _ => ⟨fun hk d' hd' => ?_, fun hk => (hk d₀ hstands).symm⟩
        rw [← hstands.unique hd']
        exact Ne.symm hk
      | error m =>
        refine hnew _ fun k => ⟨fun hk => ⟨hk, fun d' hd' hname => ?_⟩, And.left⟩
        have hpass := inspect_eq_ok_iff.mpr ⟨hd', hname ▸ hk⟩
        rw [hj] at hpass
        cases hpass

/-! ### Batches -/

/-- **Well-formed batches**: all values stand for descriptors, no two of them for descriptors of one
name. -/
structure WellFormed (batch : List Json) : Prop where
  each : ∀ j ∈ batch, ∃ d, StandsFor j d
  distinct : batch.Pairwise fun j j' =>
    ∀ d d', StandsFor j d → StandsFor j' d' → d.name ≠ d'.name

/-- **A position without fault**: its value stands for a descriptor, and no value before it stands
for a descriptor of the same name. -/
def IsBlameless (batch : List Json) (i : Nat) : Prop :=
  ∃ j d, batch[i]? = some j ∧ StandsFor j d ∧
    ∀ j' ∈ batch.take i, ∀ d', StandsFor j' d' → d'.name ≠ d.name

theorem nodup_iff_pairwise (h : List.Forall₂ StandsFor batch ds) :
    (ds.map Descriptor.name).Nodup ↔ batch.Pairwise fun j j' =>
      ∀ d d', StandsFor j d → StandsFor j' d' → d.name ≠ d'.name := by
  induction h with
  | nil => simp
  | @cons j d r ds hj hr ih =>
    rw [List.map_cons, List.nodup_cons, List.pairwise_cons, ih]
    refine and_congr_left fun _ => ⟨fun hd j' hj' d₁ d' h₁ h' hname => hd ?_, fun hd hm => ?_⟩
    · obtain ⟨d₂, hd₂, h₂⟩ := exists_of_forall₂_left hr hj'
      rw [hj.unique h₁, hname, h'.unique h₂]
      exact List.mem_map_of_mem hd₂
    · obtain ⟨d', hd', hname⟩ := List.mem_map.mp hm
      obtain ⟨j', hj', h'⟩ := exists_of_forall₂_right hr hd'
      exact hd j' hj' d d' hj h' hname.symm

/-- **The descriptors of an accepted batch** stand at the positions of their values, and have
distinct names. -/
theorem accept_eq_ok_iff : accept batch = .ok ds ↔
    List.Forall₂ StandsFor batch ds ∧ (ds.map Descriptor.name).Nodup := by
  have hall : (inspectAll [] batch).mapM id = .ok ds ↔ inspectAll [] batch = ds.map .ok := by
    rw [mapM_eq_ok, ← List.forall₂_eq_eq_eq, List.forall₂_map_right_iff]
    rfl
  have hnew : ∀ d ∈ ds, d.name ∉ ([] : List String) := fun _ _ => List.not_mem_nil
  rw [inspectAll_eq_map_ok_iff] at hall
  unfold accept
  dsimp only
  split
  · next ds' h =>
    rw [h, Except.ok.injEq] at hall
    rw [Except.ok.injEq, hall]
    exact ⟨fun h => ⟨h.1, h.2.1⟩, fun h => ⟨h.1, h.2, hnew⟩⟩
  · next e h =>
    rw [h] at hall
    exact iff_of_false nofun fun hn => by cases hall.mpr ⟨hn.1, hn.2, hnew⟩

theorem nodup_names (h : accept batch = .ok ds) : (ds.map Descriptor.name).Nodup :=
  (accept_eq_ok_iff.mp h).2

theorem settingsKey_not_mem_names (h : accept batch = .ok ds) :
    settingsKey ∉ ds.map Descriptor.name := by
  intro hm
  obtain ⟨d, hd, hname⟩ := List.mem_map.mp hm
  obtain ⟨j, -, hj⟩ := exists_of_forall₂_right (accept_eq_ok_iff.mp h).1 hd
  exact hj.unreserved hname

theorem accepts_iff : (∃ ds, accept batch = .ok ds) ↔ WellFormed batch := by
  constructor
  · rintro ⟨ds, h⟩
    obtain ⟨hall, hn⟩ := accept_eq_ok_iff.mp h
    refine ⟨fun j hj => ?_, (nodup_iff_pairwise hall).mp hn⟩
    obtain ⟨d, -, hd⟩ := exists_of_forall₂_left hall hj
    exact ⟨d, hd⟩
  · rintro ⟨heach, hdistinct⟩
    obtain ⟨ds, hall⟩ := exists_forall₂ heach
    exact ⟨ds, accept_eq_ok_iff.mpr ⟨hall, (nodup_iff_pairwise hall).mpr hdistinct⟩⟩

theorem accept_eq_error_iff {r : Rejection} : accept batch = .error r ↔
    r = .rejected ((inspectAll [] batch).map messageOf) ∧ ¬ WellFormed batch := by
  rw [← accepts_iff]
  unfold accept
  dsimp only
  split
  · simp
  · simp [eq_comm]

theorem WellFormed.perm {batch' : List Json} (h : WellFormed batch) (hp : batch'.Perm batch) :
    WellFormed batch' := by
  refine ⟨fun j hj => h.each j (hp.mem_iff.mp hj), (hp.symm.pairwise h.distinct) ?_⟩
  exact fun hd d d' hj hj' => (hd d' d hj' hj).symm

theorem WellFormed.sublist {batch' : List Json} (h : WellFormed batch)
    (hs : batch'.Sublist batch) : WellFormed batch' :=
  ⟨fun j hj => h.each j (hs.subset hj), h.distinct.sublist hs⟩

theorem getElem_messages_eq_empty_iff {messages : List String}
    (hm : messages = (inspectAll [] batch).map messageOf) (hi : i < messages.length) :
    messages[i] = "" ↔ IsBlameless batch i := by
  subst hm
  have hi' : i < (inspectAll [] batch).length := by rwa [List.length_map] at hi
  rw [List.getElem_map, messageOf_eq_empty_iff (List.getElem_mem hi')]
  have hpass : ∀ d, (inspectAll [] batch)[i] = .ok d ↔ ∃ j, batch[i]? = some j ∧ StandsFor j d ∧
      ∀ j' ∈ batch.take i, ∀ d', StandsFor j' d' → d'.name ≠ d.name := by
    intro d
    have hd : (inspectAll [] batch)[i]? = some (.ok d) ↔ _ := getElem?_inspectAll_eq_ok_iff
    rw [List.getElem?_eq_getElem hi', Option.some.injEq] at hd
    rw [hd]
    simp
  simp only [hpass, IsBlameless]
  exact exists_comm

/-- **What is accepted, and what is said of anything else.** A batch is accepted if and only if it
is well formed; its descriptors then are those of its values, position by position. Otherwise there
is a message for each position, which is empty if and only if the position has no fault. So the
order of a batch does not matter, and what is left of an accepted batch is accepted. -/
theorem accepts_or_blames (batch : List Json) :
    ((∃ ds, accept batch = .ok ds) ↔ WellFormed batch) ∧
    (∀ ds, accept batch = .ok ds → ds.length = batch.length ∧
      List.Forall₂ (fun j d => Descriptor.decode j = .ok d) batch ds) ∧
    (¬ WellFormed batch → ∃ messages, accept batch = .error (.rejected messages) ∧
      messages.length = batch.length ∧
      ∀ i (hi : i < messages.length), messages[i] = "" ↔ IsBlameless batch i) ∧
    (∀ batch', batch'.Perm batch →
      ((∃ ds, accept batch' = .ok ds) ↔ ∃ ds, accept batch = .ok ds)) ∧
    ∀ batch', batch'.Sublist batch → (∃ ds, accept batch = .ok ds) →
      ∃ ds, accept batch' = .ok ds := by
  refine ⟨accepts_iff, fun ds h => ?_, fun h => ?_, fun batch' hp => ?_, fun batch' hs h => ?_⟩
  · obtain ⟨hall, -⟩ := accept_eq_ok_iff.mp h
    exact ⟨hall.length_eq.symm, hall.imp fun _ _ => StandsFor.decoded⟩
  · refine ⟨_, accept_eq_error_iff.mpr ⟨rfl, h⟩, ?_, fun i => getElem_messages_eq_empty_iff rfl⟩
    rw [List.length_map, length_inspectAll]
  · rw [accepts_iff, accepts_iff]
    exact ⟨fun h => h.perm hp.symm, fun h => h.perm hp⟩
  · rw [accepts_iff] at h ⊢
    exact h.sublist hs

/-- A good value, one with a number as its id, one that takes the name of the entry for the batch,
and three that have the same name, the first of which also has a number written as a double. -/
def faultyNames : List Json := [
  .object [("id", .string "titles"), ("table", .string "books")],
  .object [("id", .ofInt 5)],
  .object [("id", .string "settings")],
  .object [("id", .string "years"), ("size", .ofBinary64 (.ofInt 5))],
  .object [("id", .string "years")],
  .object [("id", .string "years")]]

/-- Of the last three values the first is not decoded, so its name is still free for the second. -/
theorem accepts_or_blames_faultyNames :
    (∃ messages, accept faultyNames = .error (.rejected messages) ∧ messages.length = 6) ∧
      ∀ i < 6, IsBlameless faultyNames i ↔ i = 0 ∨ i = 4 := by
  obtain ⟨accepts, -, blames, -⟩ := accepts_or_blames faultyNames
  have hresult : accept faultyNames = .error (.rejected ["", "5 is not of type \"string\"",
      "id `settings` is reserved", "invalid type: floating point `5.0`, expected u64", "",
      "duplicate id `years`"]) := by
    decide +kernel
  have hrejected : ¬ WellFormed faultyNames := by
    rw [← accepts, hresult]
    rintro ⟨_, h⟩
    cases h
  obtain ⟨messages, hm, hlength, hblame⟩ := blames hrejected
  cases hresult.symm.trans hm
  refine ⟨⟨_, hresult, rfl⟩, fun i hi => ?_⟩
  rw [← hblame i hi]
  interval_cases i <;> simp

end Batch

end QueryBatch
