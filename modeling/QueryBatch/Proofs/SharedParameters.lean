import QueryBatch.Proofs.Numbering
import QueryBatch.Proofs.ValueClause
import QueryBatch.Sql.Builder

/-! # Conditions on shared parameters

Conditions of many calls are built on one set of parameters, and some of the calls fail. A call is
read and checked before it binds anything, and it binds its values behind those that are bound
already; so whatever calls come after it, the placeholders that it has written still stand for its
own values.

* `ClauseCall.request`: what a call asks for, or why it fails.
* `Filter.bound`, `ClauseRequest.tokensWith`: the values that are bound for a request, and its
  condition with any text in their slots.
* `ClauseCall.attempt_build`: **one call**. `ClauseCall.Keeps`: what it leaves to later calls.
* `ClauseCall.runAll_keeps`: **any calls, one after the other**.
-/

namespace QueryBatch

open Text

/-! ### Requests -/

/-- The value that the placeholder with a number stands for. -/
def Params.denoted (p : Params) : Nat → Option Scalar
  | 0 => none
  | k + 1 => p.bound[k]?

/-- **The values that a filter binds**, in order; numbers of a range are not bound. -/
def Filter.bound : Filter → List Scalar
  | .contains m => m.scalars.map pattern
  | .equals m => m.scalars
  | .range r => r.texts.map .text

/-- A filter on some columns. -/
structure ClauseRequest where
  filter : Filter
  fields : List String
  connective : Connective

namespace ClauseRequest

/-- **The condition of a request** with text in its slots; `slot` is given the number of the slot
among those of the request, and the value for it. -/
def tokensWith (slot : Nat → Scalar → String) (q : ClauseRequest) : List String :=
  match q.filter with
  | .contains m =>
    matchTokens q.connective q.fields ((m.scalars.map pattern).mapIdx fun i s => slot (i + 1) s)
  | .equals (.single s) => connect q.connective (q.fields.map fun f => [f, "=", slot 1 s])
  | .equals (.many l) =>
    connect q.connective (q.fields.map fun f =>
      [f, "IN", "(" ++ joined ", " (l.mapIdx fun i s => slot (i + 1) s) ++ ")"])
  | .range r =>
    q.fields.head?.toList.map fun field =>
      rangeText field (r.start.map (Bound.writeWith (slot 1)))
        (r.stop.map (Bound.writeWith (slot r.stopSlot)))

end ClauseRequest

/-- **What a call asks for**, if it asks for a condition, or why it fails: its value is no range, or
it has a filter but no column. -/
def ClauseCall.request : ClauseCall → Except QueryError (Option ClauseRequest)
  | .clause none _ _ => .ok none
  | .clause (some _) [] _ => .error (.invalidArgument .valueWithoutField)
  | .clause (some f) (field :: others) connective => .ok (some ⟨f, field :: others, connective⟩)
  | .range field value => (Range.parse value).map fun r => r.map fun r => ⟨.range r, [field], .or⟩

/-! ### One call -/

/-- **The condition of a filter** has the next placeholders in its slots, and its values are bound
behind the others. -/
theorem Filter.tokens_eq (q : ClauseRequest) (hf : q.fields ≠ []) (params : Params) :
    Filter.tokens (some q.filter) q.fields q.connective params =
      .ok (q.tokensWith fun k _ => Params.placeholder (params.size + k),
        ⟨params.bound ++ q.filter.bound⟩) := by
  obtain ⟨filter, fields, connective⟩ := q
  obtain ⟨field, others, rfl⟩ := List.exists_cons_of_ne_nil hf
  cases filter with
  | contains m =>
    simp only [Filter.tokens, Filter.conditions, Params.fst_bindAll, Params.snd_bindAll]
    rfl
  | equals m =>
    cases m with
    | single s => rfl
    | many l =>
      simp only [Filter.tokens, Filter.conditions, Params.fst_bindAll, Params.snd_bindAll]
      rfl
  | range r =>
    simp only [Filter.tokens, Filter.conditions, rangeCondition_eq_rangeText]
    rfl

namespace ClauseCall

/-- What a call ends with, by what it asks for. -/
def outcome (params : Params) :
    Except QueryError (Option ClauseRequest) → Except QueryError (List String) × Params
  | .error e => (.error e, params)
  | .ok none => (.ok [], params)
  | .ok (some q) =>
    (.ok (q.tokensWith fun k _ => Params.placeholder (params.size + k)),
      ⟨params.bound ++ q.filter.bound⟩)

theorem attempt_map {α β : Type} (f : α → β) (b : Builder α) (params : Params) :
    (f <$> b).attempt params = ((b.attempt params).1.map f, (b.attempt params).2) := by
  simp only [Builder.attempt, EStateM.run, Functor.map, EStateM.map]
  cases b params <;> rfl

/-- **One call** is decided by what it asks for: it fails and binds nothing, or it has no condition
and binds nothing, or it binds its values and has placeholders for them. -/
theorem attempt_build (call : ClauseCall) (params : Params) :
    call.build.attempt params = outcome params call.request := by
  cases call with
  | clause filter fields connective =>
    rw [build, Builder.attempt_clause]
    cases filter with
    | none => rfl
    | some f =>
      cases fields with
      | nil => rfl
      | cons field others =>
        rw [Filter.tokens_eq ⟨f, field :: others, connective⟩ (List.cons_ne_nil _ _)]
        rfl
  | range field value =>
    rw [build, attempt_map, Builder.attempt_rangeClause, rangeConditionOf, request]
    cases Range.parse value with
    | error e => rfl
    | ok o =>
      cases o with
      | none => rfl
      | some r =>
        simp only [bind, Except.bind, rangeCondition_eq_rangeText]
        rfl

end ClauseCall

/-! ### Slots and values -/

namespace ClauseRequest

variable {q : ClauseRequest}

/-- **A slot is the slot of the bound value with its number.** -/
theorem tokensWith_congr {slot slot' : Nat → Scalar → String}
    (h : ∀ i s, q.filter.bound[i]? = some s → slot (i + 1) s = slot' (i + 1) s) :
    q.tokensWith slot = q.tokensWith slot' := by
  obtain ⟨filter, fields, connective⟩ := q
  cases filter with
  | contains m => simp only [tokensWith, mapIdx_slot_congr (l := m.scalars.map pattern) h]
  | equals m =>
    cases m with
    | single s => simp only [tokensWith, h 0 s rfl]
    | many l => simp only [tokensWith, mapIdx_slot_congr (l := l) h]
  | range r =>
    obtain ⟨hlow, hhigh⟩ := Range.writeWith_congr h
    simp only [tokensWith, hlow, hhigh]

/-- A request without a condition binds nothing: it is for a match of no scalars. -/
theorem bound_eq_nil (hf : q.fields ≠ []) {slot : Nat → Scalar → String}
    (h : q.tokensWith slot = []) : q.filter.bound = [] := by
  obtain ⟨filter, fields, connective⟩ := q
  obtain ⟨field, others, rfl⟩ := List.exists_cons_of_ne_nil hf
  have hconnect : ∀ c r, c ≠ [] → connect connective (c :: r) ≠ [] := fun c r hc => by
    obtain ⟨s, hs⟩ := List.exists_mem_of_ne_nil c hc
    exact List.ne_nil_of_mem (mem_connect List.mem_cons_self hs)
  cases filter with
  | contains m =>
    rw [Filter.bound]
    cases hm : m.scalars.map pattern with
    | nil => rfl
    | cons s r =>
      simp only [tokensWith, hm, List.mapIdx_cons, matchTokens, List.flatMap_cons, List.map_cons,
        List.cons_append] at h
      exact absurd h (hconnect _ _ (List.cons_ne_nil _ _))
  | equals m =>
    cases m with
    | single s => exact absurd h (hconnect _ _ (List.cons_ne_nil _ _))
    | many l => exact absurd h (hconnect _ _ (List.cons_ne_nil _ _))
  | range r => exact absurd h (List.cons_ne_nil _ _)

/-- **A condition read back**: text in place of its placeholders is text in its slots, if no column
has a dollar sign in its name. -/
theorem fill_tokensWith (hn : ∀ name ∈ q.fields, Plain name) (number : Nat → Nat)
    (f : Nat → String) :
    (q.tokensWith fun k _ => Params.placeholder (number k)).map (fill f) =
      q.tokensWith fun k _ => f (number k) := by
  obtain ⟨filter, fields, connective⟩ := q
  have ho : fill f connective.operator = connective.operator := by
    cases connective <;> exact fill_of_plain (by decide)
  have hfields : ∀ name ∈ fields, fill f name = name := fun name h => fill_of_plain (hn name h)
  cases filter with
  | contains m =>
    simp only [tokensWith]
    rw [map_matchTokens ho (fill_of_plain (by decide)) hfields,
      map_fill_placeholders f fun i => number (i + 1)]
  | equals m =>
    cases m with
    | single s =>
      simp only [tokensWith]
      rw [map_connect ho, List.map_map]
      refine congrArg _ (List.map_congr_left fun name h => ?_)
      rw [Function.comp_apply, List.map_cons, List.map_cons, List.map_singleton, hfields name h,
        fill_of_plain (by decide), fill_placeholder]
    | many l =>
      have hcomma : ∀ s, Clear (", " ++ s) := fun s =>
        clear_append_of_ne_empty (by decide) (by decide) s
      have hlist : fill f ("(" ++ joined ", " (l.mapIdx fun i _ =>
          Params.placeholder (number (i + 1))) ++ ")") =
            "(" ++ joined ", " (l.mapIdx fun i _ => f (number (i + 1))) ++ ")" := by
        rw [fill_append (by decide), fill_append_of_plain (by decide),
          fill_joined_of_plain (by decide) hcomma, map_fill_placeholders f fun i => number (i + 1),
          fill_of_plain (by decide)]
      simp only [tokensWith]
      rw [map_connect ho, List.map_map]
      refine congrArg _ (List.map_congr_left fun name h => ?_)
      rw [Function.comp_apply, List.map_cons, List.map_cons, List.map_singleton, hfields name h,
        fill_of_plain (by decide), hlist]
  | range r =>
    cases fields with
    | nil => rfl
    | cons field others =>
      have hfield : Plain field := hn field List.mem_cons_self
      simp only [tokensWith, List.head?_cons, Option.toList_some]
      rw [List.map_singleton, List.map_singleton, fill_rangeText hfield, map_fill_writeWith,
        map_fill_writeWith, List.map_singleton]

end ClauseRequest

/-! ### What a call leaves to the calls after it -/

namespace ClauseCall

variable {call : ClauseCall} {before after final : Params}

/-- **What is left of a call** when all calls are made. There are the parameters before and after
it and those at last, and its result. -/
structure Keeps (call : ClauseCall) (before after final : Params)
    (result : Except QueryError (List String)) : Prop where
  /-- It fails if its request does, and has the next placeholders in its slots if not. -/
  result_eq : result = call.request.map fun o =>
    (o.map (ClauseRequest.tokensWith fun k _ => Params.placeholder (before.size + k))).getD []
  /-- With an error or without a condition nothing is bound. -/
  unchanged : (∀ tokens, result = .ok tokens → tokens = []) → after = before
  /-- Else its own values are bound behind all others. -/
  appended : ∀ q, call.request = .ok (some q) → after.bound = before.bound ++ q.filter.bound
  /-- Later calls only bind more. -/
  kept : after.bound <+: final.bound
  /-- Its slots stand for its values at last, in order. -/
  denotes : ∀ q, call.request = .ok (some q) → ∀ i s, q.filter.bound[i]? = some s →
    final.denoted (before.size + (i + 1)) = some s
  /-- With the last parameters in place of its placeholders it has its own values in the slots. -/
  readBack : ∀ q tokens, call.request = .ok (some q) → result = .ok tokens →
    (∀ name ∈ q.fields, Plain name) → ∀ write : Option Scalar → String,
      tokens.map (fill fun k => write (final.denoted k)) = q.tokensWith fun _ s => write (some s)
  /-- Of two texts the start comes before the end. -/
  between : ∀ start stop field others connective,
    call.request =
        .ok (some ⟨.range ⟨some (.text start), some (.text stop)⟩, field :: others, connective⟩) →
      result = .ok [field ++ " between " ++ Params.placeholder (before.size + 1) ++ " and " ++
        Params.placeholder (before.size + 2)] ∧
      after.bound = before.bound ++ [.text start, .text stop]
  /-- Numbers of a range are not bound. -/
  texts : ∀ r fields connective, call.request = .ok (some ⟨.range r, fields, connective⟩) →
    after.bound = before.bound ++ r.texts.map .text

theorem fields_ne_nil {q : ClauseRequest} (h : call.request = .ok (some q)) : q.fields ≠ [] := by
  cases call with
  | clause filter fields connective =>
    rcases filter with _ | f
    · cases h
    · rcases fields with _ | ⟨field, others⟩
      · cases h
      · cases h
        exact List.cons_ne_nil _ _
  | range field value =>
    rw [request] at h
    cases hp : Range.parse value with
    | error e => rw [hp] at h; cases h
    | ok o =>
      cases o with
      | none => rw [hp] at h; cases h
      | some r =>
        rw [hp] at h
        cases h
        exact List.cons_ne_nil _ _

theorem prefix_attempt (call : ClauseCall) (before : Params) :
    before.bound <+: (call.build.attempt before).2.bound := by
  rw [attempt_build]
  rcases call.request with e | _ | q
  · exact List.prefix_rfl
  · exact List.prefix_rfl
  · exact List.prefix_append _ _

theorem denoted_of_prefix {l : List Scalar} (h : before.bound ++ l <+: final.bound) {i : Nat}
    {s : Scalar} (hi : l[i]? = some s) : final.denoted (before.size + (i + 1)) = some s := by
  obtain ⟨rest, hrest⟩ := h
  have hlt : i < l.length := (List.getElem?_eq_some_iff.mp hi).1
  rw [← Nat.add_assoc, Params.denoted, ← hrest, Params.size, List.append_assoc,
    List.getElem?_append_right (by omega), Nat.add_sub_cancel_left,
    List.getElem?_append_left hlt, hi]

/-- **One call** keeps its promises if later calls only bind more. -/
theorem keeps_attempt (call : ClauseCall) (before : Params) {final : Params}
    (h : (call.build.attempt before).2.bound <+: final.bound) :
    call.Keeps before (call.build.attempt before).2 final (call.build.attempt before).1 := by
  rw [attempt_build] at h ⊢
  have hsome : ∀ {q}, call.request = .ok (some q) →
      outcome before call.request =
        (.ok (q.tokensWith fun k _ => Params.placeholder (before.size + k)),
          ⟨before.bound ++ q.filter.bound⟩) := fun hq => by rw [hq]; rfl
  have hdenotes : ∀ q, call.request = .ok (some q) → ∀ i s, q.filter.bound[i]? = some s →
      final.denoted (before.size + (i + 1)) = some s := by
    intro q hq i s hi
    rw [hsome hq] at h
    exact denoted_of_prefix h hi
  refine ⟨?_, ?_, ?_, h, hdenotes, ?_, ?_, ?_⟩
  · rcases call.request with e | _ | q <;> rfl
  · intro hnone
    cases hr : call.request with
    | error e => rfl
    | ok o =>
      cases o with
      | none => rfl
      | some q =>
        rw [hsome hr] at hnone
        have hbound := ClauseRequest.bound_eq_nil (fields_ne_nil hr) (hnone _ rfl)
        rw [outcome, hbound, List.append_nil]
  · intro q hq
    rw [hsome hq]
  · intro q tokens hq ht hn write
    rw [hsome hq] at ht
    cases ht
    rw [ClauseRequest.fill_tokensWith hn]
    exact ClauseRequest.tokensWith_congr fun i s hi => congrArg write (hdenotes q hq i s hi)
  · intro start stop field others connective hq
    rw [hsome hq]
    exact ⟨rfl, rfl⟩
  · intro r fields connective hq
    rw [hsome hq]
    rfl

/-! ### Calls one after the other -/

theorem runAll_cons (params : Params) (call : ClauseCall) (rest : List ClauseCall) :
    runAll params (call :: rest) =
      ((call.build.attempt params).1 :: (runAll (call.build.attempt params).2 rest).1,
        (runAll (call.build.attempt params).2 rest).2) :=
  rfl

theorem prefix_runAll (params : Params) (calls : List ClauseCall) :
    params.bound <+: (runAll params calls).2.bound := by
  induction calls generalizing params with
  | nil => exact List.prefix_rfl
  | cons call rest ih =>
    rw [runAll_cons]
    exact (prefix_attempt call params).trans (ih _)

theorem length_runAll (params : Params) (calls : List ClauseCall) :
    (runAll params calls).1.length = calls.length := by
  induction calls generalizing params with
  | nil => rfl
  | cons call rest ih => rw [runAll_cons, List.length_cons, ih, List.length_cons]

/-- **Any calls, one after the other**, on any parameters: each has a result, and whatever is called
before it and after it, the placeholders that it has written stand for its own values at last. -/
theorem runAll_keeps (params : Params) (calls : List ClauseCall) :
    (runAll params calls).1.length = calls.length ∧
    ∀ place (call : ClauseCall), calls[place]? = some call →
      ∃ result, (runAll params calls).1[place]? = some result ∧
        call.Keeps (runAll params (calls.take place)).2 (runAll params (calls.take (place + 1))).2
          (runAll params calls).2 result := by
  refine ⟨length_runAll params calls, ?_⟩
  induction calls generalizing params with
  | nil => intro place call h; cases h
  | cons first rest ih =>
    intro place call h
    cases place with
    | zero =>
      obtain rfl : first = call := by simpa using h
      exact ⟨_, rfl, keeps_attempt first params (prefix_runAll _ rest)⟩
    | succ n => exact ih (first.build.attempt params).2 n call (by simpa using h)

/-- A range of two texts, two calls that fail, a match of two words, and a range whose start is a
number. -/
def mixedCalls : List ClauseCall :=
  [.range "year" (some (.object [("end", .string "2000"), ("start", .string "1990")])),
    .clause (some (.equals (.single (.text "dune")))) [] .or,
    .range "price" (some (.object [("end", .bool true), ("start", .string "1")])),
    .clause (some (.contains (.many [.text "a", .text "b"]))) ["title", "author"] .and,
    .range "pages" (some (.object [("end", .string "300"), ("start", .number .zero)]))]

/-- The third call fails at its end, when its start is read already; the fourth has the numbers
behind those of the first. -/
theorem runAll_keeps_mixedCalls :
    (runAll ⟨[.text "x"]⟩ mixedCalls).2 =
      ⟨[.text "x", .text "1990", .text "2000", .text "%a%", .text "%b%", .text "300"]⟩ ∧
    (runAll ⟨[.text "x"]⟩ mixedCalls).1[2]? =
      some (.error (.invalidArgument (.notBound "end" (.bool true)))) ∧
    (runAll ⟨[.text "x"]⟩ (mixedCalls.take 3)).2 = ⟨[.text "x", .text "1990", .text "2000"]⟩ ∧
    ∃ tokens, (runAll ⟨[.text "x"]⟩ mixedCalls).1[3]? = some (.ok tokens) ∧
      tokens = ["title", "LIKE", "$4", "AND", "title", "LIKE", "$5", "AND",
        "author", "LIKE", "$4", "AND", "author", "LIKE", "$5"] ∧
      tokens.map (fill fun k =>
          (((runAll ⟨[.text "x"]⟩ mixedCalls).2.denoted k).map Scalar.asText).getD "") =
        ["title", "LIKE", "%a%", "AND", "title", "LIKE", "%b%", "AND",
          "author", "LIKE", "%a%", "AND", "author", "LIKE", "%b%"] := by
  have hbefore : (runAll ⟨[.text "x"]⟩ (mixedCalls.take 3)).2 =
      ⟨[.text "x", .text "1990", .text "2000"]⟩ := by decide +kernel
  obtain ⟨-, hcalls⟩ := runAll_keeps ⟨[.text "x"]⟩ mixedCalls
  obtain ⟨result, hresult, hkeeps⟩ := hcalls 3 _ rfl
  have hok := hkeeps.result_eq
  rw [hbefore] at hok
  subst hok
  refine ⟨by decide +kernel, by decide +kernel, hbefore, _, hresult, by decide +kernel, ?_⟩
  refine (hkeeps.readBack _ _ rfl rfl ?_ fun o => (o.map Scalar.asText).getD "").trans ?_
  · decide +kernel
  · decide +kernel

end ClauseCall

end QueryBatch
