import Mathlib.Data.List.Induction
import Mathlib.Data.List.Perm.Basic
import Mathlib.Data.List.TakeWhile
import QueryBatch.Metrics

/-! # What the metrics say of the events

Each metric has a name of its own, so an event changes a metric as if there were no other one. A
counter counts the events that it is for, and a histogram has one value of each event that it is
for. In which order the events have been recorded makes no difference.

* `Metrics.Counter`, `Metrics.Histogram`: the metrics, each with its name and its events.
* `Metrics.Key.name_injective`: **no two metrics have one name**.
* `Metrics.get?_ofEvents`: what the changes of one name make of its metric.
* `Metrics.total_ofEvents`, `Metrics.observed_ofEvents`: **what the metrics say of the events**.
-/

namespace QueryBatch.Metrics

/-! ### The metrics and their names -/

/-- **Counters.** -/
inductive Counter
  | executed (label : String)
  | failed (label : String)
  | batches
  | requests (success : Bool)
  | rejections
deriving DecidableEq

/-- **Histograms.** -/
inductive Histogram
  | durations (label : String)
  | batchDurations
  | queries
  | fetchDurations
deriving DecidableEq

/-- **Metrics** of both kinds. -/
inductive Key
  | counter (c : Counter)
  | histogram (h : Histogram)
deriving DecidableEq

def Counter.name : Counter → String
  | .executed label => labelled "reactivesql.query.executed" "kind" label
  | .failed label => labelled "reactivesql.query.failed" "kind" label
  | .batches => "reactivesql.batch.executed"
  | .requests success => labelled "reactivesql.embedding.requests" "outcome" (outcome success)
  | .rejections => "reactivesql.validation.rejected"

def Histogram.name : Histogram → String
  | .durations label => labelled "reactivesql.query.duration_ms" "kind" label
  | .batchDurations => "reactivesql.batch.duration_ms"
  | .queries => "reactivesql.batch.queries"
  | .fetchDurations => "reactivesql.embedding.duration_ms"

def Key.name : Key → String
  | .counter c => c.name
  | .histogram h => h.name

/-- The events that a counter counts. -/
def Counter.counts : Counter → Event → Bool
  | .executed label, .query label' _ => label = label'
  | .failed label, .queryFailure label' => label = label'
  | .batches, .batch _ _ => true
  | .requests success, .embedding _ success' => success = success'
  | .rejections, .rejection => true
  | _, _ => false

/-- The value that a histogram has of an event, if it is for the event. -/
def Histogram.value? : Histogram → Event → Option Binary64
  | .durations label, .query label' millis => if label = label' then some millis else none
  | .batchDurations, .batch millis _ => some millis
  | .queries, .batch _ number => some (.ofNat number)
  | .fetchDurations, .embedding millis _ => some millis
  | _, _ => none

/-- What stands before the label of a name. -/
def stem (name : String) : List Char := name.toList.takeWhile (· != '\x7b')

theorem stem_labelled {name : String} (h : stem name = name.toList) (label value : String) :
    stem (labelled name label value) = name.toList := by
  have htext : (labelled name label value).toList =
      name.toList ++ '\x7b' :: (label ++ "=" ++ value ++ "\x7d").toList := by
    simp [labelled]
  rw [stem, htext, List.takeWhile_append_of_pos (List.takeWhile_eq_self_iff.mp h)]
  simp

theorem labelled_inj {name label value value' : String} :
    labelled name label value = labelled name label value' ↔ value = value' := by
  refine ⟨fun h => String.toList_inj.mp ?_, fun h => by rw [h]⟩
  have hchars := congrArg String.toList h
  simpa [labelled] using hchars

/-- The stem of the name of a metric. -/
def Key.stem : Key → String
  | .counter (.executed _) => "reactivesql.query.executed"
  | .counter (.failed _) => "reactivesql.query.failed"
  | .counter .batches => "reactivesql.batch.executed"
  | .counter (.requests _) => "reactivesql.embedding.requests"
  | .counter .rejections => "reactivesql.validation.rejected"
  | .histogram (.durations _) => "reactivesql.query.duration_ms"
  | .histogram .batchDurations => "reactivesql.batch.duration_ms"
  | .histogram .queries => "reactivesql.batch.queries"
  | .histogram .fetchDurations => "reactivesql.embedding.duration_ms"

theorem Key.stem_name (k : Key) : Metrics.stem k.name = k.stem.toList := by
  cases k with
  | counter c =>
    cases c with
    | executed | failed | requests => exact stem_labelled (by decide +kernel) _ _
    | batches | rejections => decide +kernel
  | histogram h =>
    cases h with
    | durations => exact stem_labelled (by decide +kernel) _ _
    | batchDurations | queries | fetchDurations => decide +kernel

theorem outcome_injective {b b' : Bool} (h : outcome b = outcome b') : b = b' := by
  revert b b'
  decide

/-- **No two metrics have one name.** -/
theorem Key.name_injective {k k' : Key} (h : k.name = k'.name) : k = k' := by
  have hstem : k.stem = k'.stem := by
    rw [← String.toList_inj, ← stem_name, ← stem_name, h]
  -- the stems tell all metrics apart, and the labels those of one stem
  rcases k with (_ | _ | _ | _ | _) | (_ | _ | _ | _) <;>
    rcases k' with (_ | _ | _ | _ | _) | (_ | _ | _ | _) <;>
    simp only [stem, String.reduceEq] at hstem
  · rw [labelled_inj.mp h]
  · rw [labelled_inj.mp h]
  · rfl
  · rw [outcome_injective (labelled_inj.mp h)]
  · rfl
  · rw [labelled_inj.mp h]
  · rfl
  · rfl
  · rfl

/-! ### The changes of one metric -/

/-- The metrics that an event changes. -/
def Event.keyed : Event → List (Key × Change)
  | .query label millis => [
      (.counter (.executed label), .count), (.histogram (.durations label), .observe millis)]
  | .queryFailure label => [(.counter (.failed label), .count)]
  | .batch millis queries => [
      (.counter .batches, .count), (.histogram .batchDurations, .observe millis),
      (.histogram .queries, .observe (.ofNat queries))]
  | .embedding millis success => [
      (.counter (.requests success), .count), (.histogram .fetchDurations, .observe millis)]
  | .rejection => [(.counter .rejections, .count)]

theorem Event.changes_eq (e : Event) : e.changes = e.keyed.map fun c => (c.1.name, c.2) := by
  cases e <;> rfl

/-- The changes under a name. -/
def changesOf (name : String) (changes : List (String × Change)) : List Change :=
  changes.flatMap fun c => if c.1 = name then [c.2] else []

theorem changesOf_append (name : String) (l m : List (String × Change)) :
    changesOf name (l ++ m) = changesOf name l ++ changesOf name m := List.flatMap_append

theorem changesOf_changes (k : Key) (e : Event) :
    changesOf k.name e.changes = e.keyed.flatMap fun c => if c.1 = k then [c.2] else [] := by
  rw [Event.changes_eq, changesOf, List.flatMap_map]
  refine List.flatMap_congr fun c _ => ?_
  by_cases hc : c.1 = k
  · simp [hc]
  · have hname : ¬ c.1.name = k.name := fun h => hc (Key.name_injective h)
    simp [hc, hname]

theorem changesOf_counter (c : Counter) (e : Event) :
    changesOf c.name e.changes = if c.counts e then [.count] else [] := by
  rw [show c.name = (Key.counter c).name from rfl, changesOf_changes]
  cases c <;> cases e <;> simp [Event.keyed, Counter.counts, eq_comm]

theorem changesOf_histogram (h : Histogram) (e : Event) :
    changesOf h.name e.changes = ((h.value? e).map Change.observe).toList := by
  rw [show h.name = (Key.histogram h).name from rfl, changesOf_changes]
  cases h <;> cases e <;> simp [Event.keyed, Histogram.value?, eq_comm, apply_ite Option.toList]

theorem changesOf_counter_flatMap (c : Counter) (es : List Event) :
    changesOf c.name (es.flatMap Event.changes) = .replicate (es.countP c.counts) .count := by
  induction es with
  | nil => rfl
  | cons e r ih =>
    rw [List.flatMap_cons, changesOf_append, changesOf_counter, ih, List.countP_cons]
    cases c.counts e with
    | true => rw [if_pos rfl, if_pos rfl, List.replicate_succ]; rfl
    | false => rfl

theorem changesOf_histogram_flatMap (h : Histogram) (es : List Event) :
    changesOf h.name (es.flatMap Event.changes) = (es.filterMap h.value?).map .observe := by
  induction es with
  | nil => rfl
  | cons e r ih =>
    rw [List.flatMap_cons, changesOf_append, changesOf_histogram, ih, List.filterMap_cons]
    cases h.value? e <;> rfl

/-! ### Metrics after changes -/

/-- A metric after a change, whether it has been changed before or not. -/
def changed (metric : Option Metric) (change : Change) : Option Metric :=
  some (change.apply metric)

/-- **A metric is what its own changes make of it.** -/
theorem get?_foldl_apply (name : String) (changes : List (String × Change))
    (metrics : Keyed Metric) :
    (changes.foldl apply metrics).get? name =
      (changesOf name changes).foldl changed (metrics.get? name) := by
  induction changes generalizing metrics with
  | nil => rfl
  | cons c r ih =>
    rw [List.foldl_cons, ih, apply, Keyed.get?_insert, changesOf, changesOf, List.flatMap_cons]
    by_cases hc : c.1 = name
    · rw [if_pos hc.symm, if_pos hc, hc]
      rfl
    · rw [if_neg (Ne.symm hc), if_neg hc]
      rfl

theorem get?_ofEvents (name : String) (es : List Event) :
    (ofEvents es).get? name =
      (changesOf name (es.flatMap Event.changes)).foldl changed none :=
  get?_foldl_apply name _ []

/-- What a metric has counted. -/
def Metric.total : Metric → Nat
  | .counter n => n
  | .histogram _ => 0

/-- What a metric has observed. -/
def Metric.values : Metric → List Binary64
  | .counter _ => []
  | .histogram l => l

/-- **The total of a counter**; one that was never changed has counted nothing. -/
def total (name : String) (metrics : Keyed Metric) : Nat :=
  ((metrics.get? name).map Metric.total).getD 0

/-- **The values of a histogram**; one that was never changed has observed nothing. -/
def observed (name : String) (metrics : Keyed Metric) : List Binary64 :=
  ((metrics.get? name).map Metric.values).getD []

theorem foldl_changed_count (n : Nat) :
    (List.replicate n Change.count).foldl changed none =
      if n = 0 then none else some (.counter n) := by
  induction n with
  | zero => rfl
  | succ n ih =>
    rw [List.replicate_succ', List.foldl_append, ih]
    cases n <;> rfl

theorem perm_insertValue (x : Binary64) (l : List Binary64) : (insertValue x l).Perm (x :: l) := by
  induction l with
  | nil => exact .refl _
  | cons y r ih =>
    rw [insertValue]
    split
    · exact .refl _
    · exact (ih.cons y).trans (.swap _ _ _)

/-- A histogram has the values that it has observed, in an order of its own. -/
theorem foldl_changed_observe (l : List Binary64) :
    (l.map Change.observe).foldl changed none = none ∧ l = [] ∨
      ∃ values, (l.map Change.observe).foldl changed none = some (.histogram values) ∧
        values.Perm l := by
  induction l using List.reverseRecOn with
  | nil => exact .inl ⟨rfl, rfl⟩
  | append_singleton l x ih =>
    rw [List.map_append, List.foldl_append]
    refine .inr ?_
    rcases ih with ⟨hnone, rfl⟩ | ⟨values, hsome, hperm⟩
    · exact ⟨[x], rfl, .refl _⟩
    · rw [hsome]
      have hlast := (hperm.cons x).trans (List.perm_append_singleton x l).symm
      exact ⟨insertValue x values, rfl, (perm_insertValue x values).trans hlast⟩

/-- **A counter has counted the events that it is for.** -/
theorem total_ofEvents (c : Counter) (es : List Event) :
    total c.name (ofEvents es) = es.countP c.counts := by
  rw [total, get?_ofEvents, changesOf_counter_flatMap, foldl_changed_count]
  split
  · next h => exact h.symm
  · rfl

/-- **A histogram has the values of the events that it is for.** -/
theorem observed_ofEvents (h : Histogram) (es : List Event) :
    (observed h.name (ofEvents es)).Perm (es.filterMap h.value?) := by
  rw [observed, get?_ofEvents, changesOf_histogram_flatMap]
  rcases foldl_changed_observe (es.filterMap h.value?) with ⟨hnone, hnil⟩ | ⟨values, hsome, hperm⟩
  · rw [hnone, hnil]
    exact .refl _
  · rw [hsome]
    exact hperm

/-- **A histogram beside a counter** for the same events has as many values as the counter has
counted. -/
theorem length_observed_eq_total {h : Histogram} {c : Counter}
    (hc : ∀ e, (h.value? e).isSome = c.counts e) (es : List Event) :
    (observed h.name (ofEvents es)).length = total c.name (ofEvents es) := by
  rw [(observed_ofEvents h es).length_eq, total_ofEvents, List.length_filterMap_eq_countP]
  simp only [hc]

theorem isSome_value?_durations (label : String) (e : Event) :
    ((Histogram.durations label).value? e).isSome = (Counter.executed label).counts e := by
  cases e <;> simp [Histogram.value?, Counter.counts, apply_ite Option.isSome]

end QueryBatch.Metrics
