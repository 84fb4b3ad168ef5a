import QueryBatch.Proofs.Permits
import QueryBatch.Proofs.Settlement
import QueryBatch.Proofs.TimedRun

/-! # Batches that are cancelled

A call that waits for its permit is not watched for the cancellation. But then every call that is
running ends and gives its permit back; the next one starts with it and is cancelled at its start,
and so on. So a batch that is cancelled is the same batch, cut off: what has settled before stays as
it is, all other calls are cancelled at that moment, or at the beginning if the batch begins after
it, and the batch ends then.

* `Call.IsPrompt.kept_or_cancelled`: **how a call of a cancelled batch ends**.
* `CutOffOutcome`: what a query comes to in a batch that is cancelled.
* `Settled.cutOffOutcome`: **each query of a run on time is cut off**.
* `Settled.cutOff`: a settled query as the cancellation leaves it. `Permits.cutOff`: the permits.
* `Schedule.runWith_cutOff`: **the schedule of the cancelled batch is the one of the batch, cut
  off.**
* `Schedule.cancelled_isCutOff`: **a cancelled batch is cut off**, in each run and in the schedule.
-/

namespace QueryBatch

/-- No statement of a batch is answered at once. -/
def TakesTime (replies : Nat → Store) (compiled : List (String × Compiled)) : Prop :=
  ∀ (place : Nat) c statement delay, compiled[place]? = some c → c.2.statement = some statement →
    (replies place statement).delay = some delay → 0 < delay

section

variable {timeout : Option Nat} {reply : Reply} {start moment : Nat} {ending : Ending}

theorem Due.lt (h : Due timeout none reply start ending moment) (ht : timeout ≠ some 0)
    (hd : ∀ delay, reply.delay = some delay → 0 < delay) : start < moment := by
  cases h with
  | answered h =>
    have hpos := hd _ h
    omega
  | @expired allowed h =>
    have hne : allowed ≠ 0 := fun h0 => ht (h0 ▸ h)
    omega
  | cancelled h => cases h

theorem Due.add (h : Due timeout none reply start ending moment) (d : Nat) :
    Due timeout none reply (start + d) ending (moment + d) := by
  cases h with
  | answered h =>
    rw [Nat.add_right_comm]
    exact .answered h
  | expired h =>
    rw [Nat.add_right_comm]
    exact .expired h
  | cancelled h => cases h

theorem Due.cancelAt (h : Due timeout none reply start ending moment) (cancelAt : Option Nat) :
    Due timeout cancelAt reply start ending moment := by
  cases h with
  | answered h => exact .answered h
  | expired h => exact .expired h
  | cancelled h => cases h

/-- A call would end at a moment if nobody cancelled it. -/
def WouldEndAt (timeout : Option Nat) (reply : Reply) (start finish : Nat) : Prop :=
  ∃ outcome, Call.IsPrompt timeout none reply ⟨start, finish, outcome⟩

/-- **How a call of a cancelled batch ends**, if it would not end at that very moment: before, as it
would without the cancellation; or it is cancelled, and would end only later. -/
theorem Call.IsPrompt.kept_or_cancelled {c : Call}
    (h : c.IsPrompt timeout (some moment) reply) (ht : timeout ≠ some 0)
    (hd : ∀ delay, reply.delay = some delay → 0 < delay)
    (hother : ¬ WouldEndAt timeout reply c.start moment) :
    (c.IsPrompt timeout none reply ∧ c.finish < moment) ∨
      (c.outcome = .error .cancelled ∧ c.finish = max c.start moment ∧
        ∀ ending m, Due timeout none reply c.start ending m → moment < m) := by
  obtain ⟨⟨ending, hdue, ho⟩, hfirst⟩ := h
  obtain ⟨start, finish, outcome⟩ := c
  obtain rfl : outcome = ending.outcome timeout := ho
  dsimp only at hdue hfirst hother ⊢
  have hlatest : finish ≤ max start moment := hfirst _ _ (.cancelled rfl)
  -- a call that ends in its own way ends as it would without the cancellation
  have hown : Due timeout none reply start ending finish →
      Call.IsPrompt timeout none reply ⟨start, finish, ending.outcome timeout⟩ ∧
        finish < moment := by
    intro hdue
    have hprompt : Call.IsPrompt timeout none reply ⟨start, finish, ending.outcome timeout⟩ :=
      ⟨⟨ending, hdue, rfl⟩, fun e m hm => hfirst e m (hm.cancelAt _)⟩
    have hne : finish ≠ moment := by
      rintro rfl
      exact hother ⟨_, hprompt⟩
    have hlt : start < finish := hdue.lt ht hd
    exact ⟨hprompt, by omega⟩
  cases hdue with
  | answered h => exact .inl (hown (.answered h))
  | expired h => exact .inl (hown (.expired h))
  | @cancelled m hm =>
    cases hm
    refine .inr ⟨rfl, rfl, fun e m hm => ?_⟩
    have hle := hfirst e m (hm.cancelAt _)
    by_contra hge
    -- it would be due at the cancellation, and this is excluded
    obtain rfl : m = moment := by omega
    refine hother ⟨e.outcome timeout, ⟨e, hm, rfl⟩, fun e' m' hm' => ?_⟩
    have hle' := hfirst e' m' (hm'.cancelAt _)
    dsimp only
    omega

end

/-! ### Runs on time -/

/-- **A query of a batch that is cancelled**, with its call and its result. A call that ended before
is kept as it is; all others are cancelled at that moment, or at the beginning of the batch. -/
inductive CutOffOutcome (timeout : Option Nat) (moment begin : Nat) (store : Store) :
    Option Statement → Option (Statement × Call) → Except ExecutionError (List Row) → Prop
  | unasked : CutOffOutcome timeout moment begin store none none (.ok [])
  | kept {statement : Statement} {call : Call} (hb : begin ≤ call.start)
    (hp : call.IsPrompt timeout none (store statement)) (hlt : call.finish < moment) :
    CutOffOutcome timeout moment begin store (some statement) (some (statement, call))
      call.outcome.result
  | cancelled {statement : Statement} {call : Call} (hb : begin ≤ call.start)
    (hs : call.start ≤ max begin moment) (hf : call.finish = max begin moment)
    (ho : ∀ ending m, Due timeout none (store statement) call.start ending m → moment < m) :
    CutOffOutcome timeout moment begin store (some statement) (some (statement, call))
      (.error .cancelled)

/-- **A query of a batch that is cancelled at no moment at which its call would end is cut off.** -/
theorem Settled.cutOffOutcome {timeout : Option Nat} {moment begin : Nat} {store : Store}
    {statement : Option Statement} {r : Settled} (ht : timeout ≠ some 0)
    (hd : ∀ st delay, statement = some st → (store st).delay = some delay → 0 < delay)
    (h : Tasks.RunsPromptly timeout (some moment) begin store statement r.call)
    (hlast : ∀ st call, r.call = some (st, call) → call.finish ≤ max begin moment)
    (hother : ∀ st call, r.call = some (st, call) →
      ¬ WouldEndAt timeout (store st) call.start moment) :
    CutOffOutcome timeout moment begin store statement r.call r.result := by
  generalize hcall : r.call = c at h
  cases h with
  | unasked =>
    rw [Settled.result_of_no_call hcall]
    exact .unasked
  | @prompt st call hb hp =>
    have hlast := hlast st call hcall
    have hstart : call.start ≤ call.finish := by
      obtain ⟨ending, hdue, -⟩ := hp.due
      exact hdue.le
    rw [Settled.result_of_call hcall]
    rcases hp.kept_or_cancelled ht (fun delay => hd st delay rfl) (hother st call hcall) with
      ⟨hown, hlt⟩ | ⟨ho, hf, hlater⟩
    · exact .kept hb hown hlt
    · rw [ho]
      exact .cancelled hb (by omega) (by omega) hlater

/-! ### The schedule -/

namespace Race

variable {α : Type} {l : List (Option Nat × α)} {moment t : Nat} {a b : α}

theorem first_concat_none : first (l ++ [(none, b)]) = first l := by
  induction l with
  | nil => rfl
  | cons p r ih =>
    obtain ⟨_ | u, c⟩ := p
    · exact ih
    · rw [List.cons_append, first, first, ih]

theorem first_concat_some : first (l ++ [(some t, b)]) =
    some (match first l with
      | none => (t, b)
      | some (u, a) => if t < u then (t, b) else (u, a)) := by
  induction l with
  | nil => rfl
  | cons p r ih =>
    obtain ⟨_ | u, c⟩ := p
    · exact ih
    · rw [List.cons_append, first, first, ih]
      rcases first r with _ | ⟨v, d⟩
      · simp only
        split <;> rfl
      · simp only
        grind

end Race

/-- **A call as a cancellation leaves it**: if it has not ended before it is cancelled then, or at
the beginning of the batch. -/
def Call.cutOff (begin moment : Nat) (c : Call) : Call :=
  if c.finish < moment then c
  else ⟨min c.start (max begin moment), max begin moment, .error .cancelled⟩

/-- **A query as a cancellation leaves it.** -/
def Settled.cutOff (begin moment : Nat) (r : Settled) : Settled :=
  { r with call := r.call.map fun c => (c.1, c.2.cutOff begin moment) }

section

variable {timeout : Option Nat} {reply : Reply} {begin start moment : Nat} {call : Call}

theorem Call.settle_of_finish_lt (h : settle timeout none start reply = some call)
    (hlt : call.finish < moment) : settle timeout (some moment) start reply = some call := by
  obtain ⟨⟨finish, outcome⟩, hrace, rfl⟩ := Option.map_eq_some_iff.mp h
  dsimp only at hlt
  have hown : Race.first [(Race.after start reply.delay, reply.outcome),
      (Race.after start timeout, timedOut timeout)] = some (finish, outcome) :=
    Race.first_concat_none.symm.trans hrace
  have hfirst : Race.first ([(Race.after start reply.delay, reply.outcome),
      (Race.after start timeout, timedOut timeout)] ++
        [(some (max start moment), .error .cancelled)]) = some (finish, outcome) := by
    rw [Race.first_concat_some, hown]
    exact congrArg some (if_neg (by omega))
  exact Option.map_eq_some_iff.mpr ⟨_, hfirst, rfl⟩

theorem Call.settle_of_lt_due
    (h : ∀ ending m, Due timeout none reply start ending m → max start moment < m) :
    settle timeout (some moment) start reply =
      some ⟨start, max start moment, .error .cancelled⟩ := by
  have hsettle : ∃ call, settle timeout (some moment) start reply = some call :=
    exists_settle_eq_some (.inr (.inr rfl)) start
  obtain ⟨⟨start', finish, outcome⟩, hcall⟩ := hsettle
  obtain ⟨hstart, -, ⟨ending, hdue, ho⟩, hfirst⟩ := settle_eq_some hcall
  obtain rfl : start' = start := hstart
  obtain rfl : outcome = ending.outcome timeout := ho
  have hlatest : finish ≤ max start' moment := hfirst _ _ (.cancelled rfl)
  dsimp only at hdue
  rw [hcall]
  cases hdue with
  | answered hd =>
    have hlater := h _ _ (.answered hd)
    omega
  | expired ha =>
    have hlater := h _ _ (.expired ha)
    omega
  | cancelled hm =>
    cases hm
    rfl

/-- **A call that is cancelled is cut off.** -/
theorem Call.settle_cutOff (h : settle timeout none start reply = some call)
    (ht : timeout ≠ some 0) (hd : ∀ delay, reply.delay = some delay → 0 < delay)
    (hb : begin ≤ start) (hne : call.finish ≠ moment) :
    settle timeout (some moment) (min start (max begin moment)) reply =
      some (call.cutOff begin moment) := by
  obtain ⟨hstart, hle, -, hfirst⟩ := settle_eq_some h
  unfold cutOff
  split
  · next hlt =>
    rw [Nat.min_eq_left (by omega)]
    exact settle_of_finish_lt h hlt
  · next hge =>
    have hmax : max (min start (max begin moment)) moment = max begin moment := by omega
    rw [hstart, settle_of_lt_due, hmax]
    intro ending m hm
    rw [hmax]
    -- from the later start it is due as much later, and no earlier than the call has ended
    obtain ⟨d, hshift⟩ := Nat.exists_eq_add_of_le (Nat.min_le_left start (max begin moment))
    have hlater : call.finish ≤ m + d := hfirst ending _ (hstart ▸ hshift ▸ hm.add d)
    have hpos := hm.lt ht hd
    omega

end

/-! ### Permits -/

namespace Permits

variable {begin finish moment : Nat} {permits : Permits}

/-- **Permits are given back in the order of time**, and not before the batch begins. -/
inductive IsAscending (begin : Nat) : Permits → Prop
  | unlimited : IsAscending begin .unlimited
  | limited {unused : Nat} {returns : List Nat} (sorted : returns.Pairwise (· ≤ ·))
    (later : ∀ t ∈ returns, begin ≤ t) : IsAscending begin (.limited unused returns)

theorem isAscending_ofLimit (limit : Option Nat) : (ofLimit limit).IsAscending begin := by
  cases limit with
  | none => exact .unlimited
  | some n => exact .limited .nil fun _ ht => absurd ht List.not_mem_nil

theorem IsAscending.begin_le_next (h : permits.IsAscending begin) : begin ≤ permits.next begin := by
  cases h with
  | unlimited => exact le_rfl
  | @limited unused returns _ later =>
    cases unused with
    | succ => exact le_rfl
    | zero =>
      cases returns with
      | nil => exact le_rfl
      | cons t r => exact later t List.mem_cons_self

theorem IsAscending.occupy (h : permits.IsAscending begin) (hf : begin ≤ finish) :
    (permits.occupy finish).IsAscending begin := by
  have hinsert : ∀ {returns : List Nat}, returns.Pairwise (· ≤ ·) → (∀ t ∈ returns, begin ≤ t) →
      (insertMoment finish returns).Pairwise (· ≤ ·) ∧
        ∀ t ∈ insertMoment finish returns, begin ≤ t := by
    intro returns sorted later
    refine ⟨insertMoment_eq finish returns ▸ sorted.orderedInsert _ _, fun t ht => ?_⟩
    rcases List.mem_cons.mp ((perm_insertMoment finish returns).subset ht) with rfl | ht
    · exact hf
    · exact later t ht
  cases h with
  | unlimited => exact .unlimited
  | @limited unused returns sorted later =>
    cases unused with
    | succ unused =>
      obtain ⟨sorted, later⟩ := hinsert sorted later
      exact .limited sorted later
    | zero =>
      obtain ⟨sorted, later⟩ := hinsert sorted.tail fun t ht => later t (List.mem_of_mem_tail ht)
      exact .limited sorted later

/-- **Permits as a cancellation leaves them**: all that are had are given back by a moment. -/
def cutOff (moment : Nat) : Permits → Permits
  | .unlimited => .unlimited
  | .limited unused returns => .limited unused (returns.map (min · moment))

theorem next_cutOff (hb : begin ≤ moment) :
    (permits.cutOff moment).next begin = min (permits.next begin) moment := by
  cases permits with
  | unlimited => exact (Nat.min_eq_left hb).symm
  | limited unused returns =>
    cases unused with
    | succ => exact (Nat.min_eq_left hb).symm
    | zero =>
      cases returns with
      | nil => exact (Nat.min_eq_left hb).symm
      | cons => rfl

/-- A moment is put in its place before or after the others are cut off. -/
theorem insertMoment_map_min {returns : List Nat} (h : returns.Pairwise (· ≤ ·)) :
    insertMoment (min finish moment) (returns.map (min · moment)) =
      (insertMoment finish returns).map (min · moment) := by
  have hmono : ∀ {l : List Nat}, l.Pairwise (· ≤ ·) → (l.map (min · moment)).Pairwise (· ≤ ·) :=
    fun h => h.map _ fun a b hle => show min a moment ≤ min b moment by omega
  rw [insertMoment_eq, insertMoment_eq]
  refine List.Perm.eq_of_pairwise' ((hmono h).orderedInsert _ _)
    (hmono (h.orderedInsert _ _)) ?_
  exact (List.perm_orderedInsert _ _ _).trans
    ((List.perm_orderedInsert (· ≤ ·) finish returns).map (min · moment)).symm

theorem IsAscending.occupy_cutOff (h : permits.IsAscending begin) :
    (permits.cutOff moment).occupy (min finish moment) = (permits.occupy finish).cutOff moment := by
  cases h with
  | unlimited => rfl
  | @limited unused returns sorted =>
    cases unused with
    | succ unused => exact congrArg _ (insertMoment_map_min sorted)
    | zero =>
      have htail : (returns.map (min · moment)).tail = returns.tail.map (min · moment) :=
        List.map_tail.symm
      rw [cutOff, Permits.occupy, Permits.occupy, cutOff, htail, insertMoment_map_min sorted.tail]

end Permits

theorem Call.finish_cutOff {begin moment : Nat} {call : Call} (hb : begin ≤ call.finish) :
    (call.cutOff begin moment).finish = min call.finish (max begin moment) := by
  unfold cutOff
  split
  · omega
  · dsimp only
    omega

namespace Schedule

variable {limits : ExecutionLimits} {store : Store} {begin moment : Nat} {permits : Permits}
  {compiled : List (String × Compiled)} {settled : List Settled}

/-- **The schedule of a cancelled batch** is the one of the batch, cut off. -/
theorem runWith_cutOff (ht : limits.timeout ≠ some 0)
    (hd : ∀ c ∈ compiled, ∀ statement delay, c.2.statement = some statement →
      (store statement).delay = some delay → 0 < delay)
    (hp : permits.IsAscending begin)
    (h : runWith limits none store begin permits compiled = some settled)
    (hne : ∀ c ∈ calls settled, c.2.finish ≠ moment) :
    runWith limits (some moment) store begin (permits.cutOff (max begin moment)) compiled =
      some (settled.map (Settled.cutOff begin moment)) := by
  induction compiled generalizing permits settled with
  | nil =>
    cases h
    rfl
  | cons c rest ih =>
    obtain ⟨name, c⟩ := c
    have hrest := fun d hd' => hd d (List.mem_cons_of_mem _ hd')
    rw [runWith] at h ⊢
    cases hc : c.statement with
    | none =>
      simp only [hc] at h ⊢
      obtain ⟨others, hothers, h⟩ := Option.bind_eq_some_iff.mp h
      cases h
      rw [ih hrest hp hothers hne]
      rfl
    | some statement =>
      simp only [hc] at h ⊢
      obtain ⟨call, hcall, h⟩ := Option.bind_eq_some_iff.mp h
      obtain ⟨others, hothers, h⟩ := Option.bind_eq_some_iff.mp h
      cases h
      have hbegin := hp.begin_le_next
      obtain ⟨-, hfinish, -⟩ := Call.settle_eq_some hcall
      have hcut : Call.settle limits.timeout (some moment)
          ((permits.cutOff (max begin moment)).next begin) (store statement) =
          some (call.cutOff begin moment) := by
        rw [Permits.next_cutOff (Nat.le_max_left _ _)]
        exact Call.settle_cutOff hcall ht (fun delay => hd _ List.mem_cons_self statement delay hc)
          hbegin (hne _ List.mem_cons_self)
      have hothers' := ih hrest (hp.occupy (hbegin.trans hfinish)) hothers
        fun d hd' => hne d (List.mem_cons_of_mem _ hd')
      refine Option.bind_eq_some_iff.mpr ⟨_, hcut, Option.bind_eq_some_iff.mpr ⟨_, ?_, rfl⟩⟩
      rw [Call.finish_cutOff (hbegin.trans hfinish), hp.occupy_cutOff]
      exact hothers'

theorem calls_cutOff (begin moment : Nat) (settled : List Settled) :
    calls (settled.map (Settled.cutOff begin moment)) =
      (calls settled).map fun c => (c.1, c.2.cutOff begin moment) := by
  rw [calls, calls, List.filterMap_map, List.map_filterMap]
  rfl

/-- **A cancelled batch ends** at the cancellation or, if that is earlier, when the batch would. -/
theorem finish_cutOff (begin moment : Nat) (settled : List Settled) :
    finish begin (settled.map (Settled.cutOff begin moment)) =
      max begin (min moment (finish begin settled)) := by
  refine eq_of_forall_ge_iff fun m => ?_
  have hmin : min moment (finish begin settled) ≤ m ↔ moment ≤ m ∨ finish begin settled ≤ m := by
    omega
  rw [finish_le_iff, calls_cutOff, List.forall_mem_map, Nat.max_le, hmin, finish_le_iff]
  refine and_congr_right fun hb => ?_
  have hcut : ∀ c : Call, (c.cutOff begin moment).finish ≤ m ↔ moment ≤ m ∨ c.finish ≤ m := by
    intro c
    unfold Call.cutOff
    split
    · omega
    · dsimp only
      omega
  simp only [hcut]
  constructor
  · intro h
    rcases Nat.lt_or_ge m moment with hlt | hle
    · exact .inr ⟨hb, fun c hc => (h c hc).resolve_left (by omega)⟩
    · exact .inl hle
  · rintro (hle | ⟨-, h⟩) c hc
    · exact .inl hle
    · exact .inr (h c hc)

/-! ### Cancelled batches -/

/-- **A batch that is cancelled.** Each query is cut off, if its call would not end at that very
moment, and the batch ends then at the latest. -/
structure IsCutOff (timeout : Option Nat) (moment : Nat) (replies : Nat → Store) (begin : Nat)
    (compiled : List (String × Compiled)) (settled : List Settled) : Prop where
  length : settled.length = compiled.length
  each : ∀ (place : Nat) c r, compiled[place]? = some c → settled[place]? = some r →
    r.name = c.1 ∧ r.shape = c.2.shape ∧
      ((∀ statement call, r.call = some (statement, call) →
        ¬ WouldEndAt timeout (replies place statement) call.start moment) →
      CutOffOutcome timeout moment begin (replies place) c.2.statement r.call r.result)
  finish_le : finish begin settled ≤ max begin moment

open Tasks in
/-- **A cancelled batch is cut off.** Each run on time goes on to an end, and what it has settled
then is cut off; and the schedule of the cancelled batch is the schedule of the batch, cut off, if
none of its calls ends at that very moment. -/
theorem cancelled_isCutOff (limit timeout : Option Nat) (begin moment : Nat)
    (compiled : List (String × Compiled)) (ht : timeout ≠ some 0) :
    (∀ replies, TakesTime replies compiled → ∀ turns s,
      TimedRun ⟨limit, timeout⟩ replies (some moment) (ofBatch ⟨limit, timeout⟩ begin compiled)
        turns s →
        turns.length ≤ 2 * compiled.length + 1 ∧
        (¬ s.IsOver → ∃ turn s',
          Step ⟨limit, timeout⟩ (.ofReplies replies (some moment)) s turn s' ∧
            s.OnTime ⟨limit, timeout⟩ replies (some moment) turn) ∧
        (s.IsOver → ∃ settled, s.settled? = some settled ∧ s.clock = finish begin settled ∧
          IsCutOff timeout moment replies begin compiled settled)) ∧
    ∀ store, TakesTime (fun _ => store) compiled →
      (∀ c ∈ compiled, ∀ statement, c.2.statement = some statement →
        (store statement).delay.isSome = true) →
      ∃ settled, run ⟨limit, timeout⟩ none store begin compiled = some settled ∧
        ((∀ c ∈ calls settled, c.2.finish ≠ moment) →
          run ⟨limit, timeout⟩ (some moment) store begin compiled =
            some (settled.map (Settled.cutOff begin moment)) ∧
          finish begin (settled.map (Settled.cutOff begin moment)) =
            max begin (min moment (finish begin settled))) := by
  refine ⟨fun replies hd turns s hrun => ⟨hrun.run.length_le, hrun.exists_onTime ?_, fun ho => ?_⟩,
    fun store hd hends => ?_⟩
  · exact fun _ _ _ _ _ => .inr (.inr rfl)
  · obtain ⟨settled, hs, hlength, hclock, heach⟩ := hrun.exists_prompt ho
    have hfinish : finish begin settled ≤ max begin moment :=
      hclock ▸ hrun.punctual.cancelled moment rfl
    refine ⟨settled, hs, hclock, hlength, fun place c r hc hr => ?_, hfinish⟩
    obtain ⟨hname, hshape, hprompt⟩ := heach place c r hc hr
    refine ⟨hname, hshape, fun hother => Settled.cutOffOutcome ht
      (fun st delay hst => hd place c st delay hc hst) hprompt (fun st call hcall => ?_) hother⟩
    exact (le_finish (List.mem_of_getElem? hr) hcall).trans hfinish
  · have hrun : ∃ settled, run ⟨limit, timeout⟩ none store begin compiled = some settled :=
      exists_runWith_eq_some _ fun c hc statement hst => .inl (hends c hc statement hst)
    obtain ⟨settled, hrun⟩ := hrun
    refine ⟨settled, hrun, fun hne => ⟨?_, finish_cutOff begin moment settled⟩⟩
    have hlate : ∀ c ∈ compiled, ∀ statement delay, c.2.statement = some statement →
        (store statement).delay = some delay → 0 < delay := by
      intro c hc statement delay
      obtain ⟨place, hplace⟩ := List.mem_iff_getElem?.mp hc
      exact hd place c statement delay hplace
    have hstart : (Permits.ofLimit limit).cutOff (max begin moment) = .ofLimit limit := by
      cases limit <;> rfl
    have hcut := runWith_cutOff ht hlate (Permits.isAscending_ofLimit limit) hrun hne
    rw [hstart] at hcut
    exact hcut

open Tasks in
/-- With one permit the first call ends after five milliseconds, and the second, which would end
after ten, is cancelled when seven have passed. When three have passed both are: the one that runs
and the one that has no permit yet. -/
theorem cancelled_isCutOff_broken :
    (∃ turns s settled,
      TimedRun ⟨some 1, none⟩ (fun _ => brokenStore) (some 7)
        (ofBatch ⟨some 1, none⟩ 0 threeQueries) turns s ∧
      s.IsOver ∧ s.settled? = some settled ∧
      IsCutOff none 7 (fun _ => brokenStore) 0 threeQueries settled ∧
      settled.map Settled.result =
        [.error (.failed (Settled.panicMessage "out of memory")), .ok [], .error .cancelled]) ∧
    ∃ settled, run ⟨some 1, none⟩ none brokenStore 0 threeQueries = some settled ∧
      finish 0 settled = 10 ∧
      run ⟨some 1, none⟩ (some 3) brokenStore 0 threeQueries =
        some (settled.map (Settled.cutOff 0 3)) ∧
      (settled.map (Settled.cutOff 0 3)).map Settled.result =
        [.error .cancelled, .ok [], .error .cancelled] ∧
      finish 0 (settled.map (Settled.cutOff 0 3)) = 3 := by
  have hd : TakesTime (fun _ => brokenStore) threeQueries := by
    intro _ _ _ delay _ _ h
    obtain rfl : 5 = delay := Option.some.inj h
    decide
  constructor
  · obtain ⟨each, -⟩ := cancelled_isCutOff (some 1) none 0 7 threeQueries nofun
    have hrun : ∃ settled, run ⟨some 1, none⟩ (some 7) brokenStore 0 threeQueries = some settled ∧
        settled.map Settled.result =
          [.error (.failed (Settled.panicMessage "out of memory")), .ok [], .error .cancelled] :=
      ⟨_, rfl, rfl⟩
    obtain ⟨settled, hrun, hresults⟩ := hrun
    obtain ⟨turns, s, htimed, ho, hs⟩ := exists_timedRun hrun
    obtain ⟨settled', hs', -, hcut⟩ := (each _ hd _ _ htimed).2.2 ho
    cases hs.symm.trans hs'
    exact ⟨turns, s, settled, htimed, ho, hs, hcut, hresults⟩
  · obtain ⟨-, schedule⟩ := cancelled_isCutOff (some 1) none 0 3 threeQueries nofun
    obtain ⟨settled, hrun, hcut⟩ := schedule brokenStore hd fun _ _ _ _ => rfl
    obtain ⟨hends, hfinish, hresults⟩ : (calls settled).map (fun c => c.2.finish) = [5, 10] ∧
        finish 0 settled = 10 ∧ (settled.map (Settled.cutOff 0 3)).map Settled.result =
          [.error .cancelled, .ok [], .error .cancelled] := by
      cases (Eq.refl (run ⟨some 1, none⟩ none brokenStore 0 threeQueries)).symm.trans hrun
      exact ⟨rfl, rfl, rfl⟩
    have hne : ∀ c ∈ calls settled, c.2.finish ≠ 3 := by
      intro c hc
      have hmem : c.2.finish ∈ [5, 10] := hends ▸ List.mem_map_of_mem hc
      rintro heq
      rw [heq] at hmem
      revert hmem
      decide
    obtain ⟨hrun', hend⟩ := hcut hne
    exact ⟨settled, hrun, hfinish, hrun', hresults, by rw [hend, hfinish]; rfl⟩

end Schedule

end QueryBatch
