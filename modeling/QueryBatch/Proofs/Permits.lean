import QueryBatch.Proofs.ScheduleRun

/-! # Permits of a schedule

A schedule hands out its permits in the order of the batch, and each is given back at the end of the
call that had it. So no more calls run at once than there are permits, and a schedule goes on to its
end unless one of its calls never ends.

* `Permits.Covers`: the permits beside the ends of the calls so far.
* `Schedule.peak_le`: **at most as many calls at once as permits**.
* `Schedule.exists_runWith_eq_some`: if each call ends, there is a schedule.
-/

namespace QueryBatch

namespace Permits

theorem perm_insertMoment (t : Nat) (l : List Nat) : (insertMoment t l).Perm (t :: l) :=
  insertMoment_eq t l ▸ List.perm_orderedInsert _ _ _

/-- **The permits beside the ends of the calls so far.** Each permit that has been had is given back
at the end of a call; all other calls end no later, and there are none until all permits have been
had. -/
inductive Covers (n : Nat) (before : List Nat) : Permits → Prop
  | limited {unused : Nat} {returns : List Nat} (past : List Nat)
    (total : unused + returns.length = n) (perm : before.Perm (past ++ returns))
    (sorted : returns.Pairwise (· ≤ ·)) (earlier : ∀ a ∈ past, ∀ b ∈ returns, a ≤ b)
    (used : past = [] ∨ unused = 0) :
    Covers n before (.limited unused returns)

variable {n begin finish : Nat} {before : List Nat} {permits : Permits}

theorem covers_ofLimit (n : Nat) : Covers (max n 1) [] (ofLimit (some n)) :=
  .limited [] rfl .nil .nil (fun _ ha => absurd ha List.not_mem_nil) (.inl rfl)

/-- **When the next call starts, there is a permit for it.** -/
theorem Covers.countP_lt (h : Covers n before permits) (hn : 0 < n) :
    before.countP (fun t => permits.next begin < t) < n := by
  cases h with
  | @limited unused returns past total perm sorted earlier used =>
    cases unused with
    | succ unused =>
      have hpast : past = [] := used.resolve_right (by omega)
      rw [hpast, List.nil_append] at perm
      have hle := List.countP_le_length
        (p := fun t => next begin (.limited (unused + 1) returns) < t) (l := before)
      have hlength := perm.length_eq
      omega
    | zero =>
      obtain ⟨first, others, rfl⟩ :=
        List.exists_cons_of_ne_nil (List.ne_nil_of_length_pos (by omega : 0 < returns.length))
      rw [perm.countP_eq, List.countP_append, List.countP_cons]
      -- the permit is given back at this moment, and all the past ones were before
      have hpast : past.countP (fun t => next begin (.limited 0 (first :: others)) < t) = 0 := by
        refine List.countP_eq_zero.mpr fun a ha => ?_
        have hle := earlier a ha first List.mem_cons_self
        simpa [next] using hle
      have hfirst : ¬ next begin (.limited 0 (first :: others)) < first := by simp [next]
      have hothers := List.countP_le_length
        (p := fun t => next begin (.limited 0 (first :: others)) < t) (l := others)
      rw [hpast, if_neg (by simpa using hfirst)]
      rw [List.length_cons] at total
      omega

theorem Covers.occupy (h : Covers n before permits) (hn : 0 < n)
    (hf : permits.next begin ≤ finish) : Covers n (finish :: before) (permits.occupy finish) := by
  cases h with
  | @limited unused returns past total perm sorted earlier used =>
    cases unused with
    | succ unused =>
      have hpast : past = [] := used.resolve_right (by omega)
      subst hpast
      have hperm := perm_insertMoment finish returns
      refine .limited [] ?_ ?_ ?_ (fun _ ha => absurd ha List.not_mem_nil) (.inl rfl)
      · rw [hperm.length_eq, List.length_cons]
        omega
      · exact (perm.cons finish).trans hperm.symm
      · rw [insertMoment_eq]
        exact sorted.orderedInsert _ _
    | zero =>
      obtain ⟨first, others, rfl⟩ :=
        List.exists_cons_of_ne_nil (List.ne_nil_of_length_pos (by omega : 0 < returns.length))
      have hle : first ≤ finish := hf
      obtain ⟨hfirst, hsorted⟩ := List.pairwise_cons.mp sorted
      have hperm := perm_insertMoment finish others
      refine .limited (past ++ [first]) ?_ ?_ ?_ ?_ (.inr rfl)
      · rw [List.tail_cons, hperm.length_eq, List.length_cons]
        rw [List.length_cons] at total
        omega
      · rw [List.tail_cons, List.append_assoc, List.singleton_append]
        have hcons : (finish :: before).Perm (past ++ finish :: first :: others) :=
          (perm.cons finish).trans List.perm_middle.symm
        refine hcons.trans (.append_left past ?_)
        exact (List.Perm.swap first finish others).trans (hperm.symm.cons first)
      · rw [List.tail_cons, insertMoment_eq]
        exact hsorted.orderedInsert _ _
      · intro a ha b hb
        -- the call with the permit that is had again was the last of the past ones
        have ha' : a ≤ first := by
          rcases List.mem_append.mp ha with ha | ha
          · exact earlier a ha first List.mem_cons_self
          · exact (List.mem_singleton.mp ha).le
        rcases List.mem_cons.mp (hperm.subset hb) with rfl | hb
        · exact ha'.trans hle
        · exact ha'.trans (hfirst b hb)

end Permits

/-! ### Schedules -/

theorem Call.exists_settle_eq_some {timeout cancelAt : Option Nat} {reply : Reply}
    (h : reply.delay.isSome = true ∨ timeout.isSome = true ∨ cancelAt.isSome = true)
    (start : Nat) :
    ∃ call, settle timeout cancelAt start reply = some call := by
  have hfirst : ∃ moment outcome, Race.first [
      (Race.after start reply.delay, reply.outcome),
      (Race.after start timeout, timedOut timeout),
      (Race.noEarlier start cancelAt, .error .cancelled)] = some (moment, outcome) := by
    refine Race.exists_first_eq_some ?_
    simpa [Race.after, Race.noEarlier] using h
  obtain ⟨moment, outcome, hfirst⟩ := hfirst
  exact ⟨⟨start, moment, outcome⟩, by rw [settle, hfirst]; rfl⟩

namespace Schedule

variable {limits : ExecutionLimits} {cancelAt : Option Nat} {store : Store} {begin n : Nat}
  {compiled : List (String × Compiled)} {settled : List Settled}

theorem peakAfter_le {permits : Permits} {before : List Nat}
    (h : runWith limits cancelAt store begin permits compiled = some settled)
    (hp : permits.Covers n before) (hn : 0 < n) : peakAfter before (calls settled) ≤ n := by
  induction compiled generalizing permits before settled with
  | nil =>
    cases h
    exact Nat.zero_le n
  | cons c rest ih =>
    obtain ⟨name, c⟩ := c
    rw [runWith] at h
    cases hc : c.statement with
    | none =>
      simp only [hc] at h
      obtain ⟨others, hothers, h⟩ := Option.bind_eq_some_iff.mp h
      cases h
      have hrest := ih hothers hp
      exact hrest
    | some statement =>
      simp only [hc] at h
      obtain ⟨call, hcall, h⟩ := Option.bind_eq_some_iff.mp h
      obtain ⟨others, hothers, h⟩ := Option.bind_eq_some_iff.mp h
      cases h
      obtain ⟨hstart, hfinish, -⟩ := Call.settle_eq_some hcall
      have hfirst : before.countP (fun t => permits.next begin < t) < n := hp.countP_lt hn
      have hrest := ih hothers (hp.occupy hn (hstart ▸ hfinish : permits.next begin ≤ call.finish))
      rw [← hstart] at hfirst
      refine max_le ?_ hrest
      show 1 + before.countP (fun t => call.start < t) ≤ n
      omega

/-- **At most as many calls run at once as there are permits**, and at least one may. -/
theorem peak_le {timeout : Option Nat}
    (h : run ⟨some n, timeout⟩ cancelAt store begin compiled = some settled) :
    peak settled ≤ max n 1 :=
  peakAfter_le h (Permits.covers_ofLimit n) (by omega)

/-- **If each call ends, there is a schedule.** -/
theorem exists_runWith_eq_some (permits : Permits)
    (h : ∀ c ∈ compiled, ∀ statement, c.2.statement = some statement →
      (store statement).delay.isSome = true ∨ limits.timeout.isSome = true ∨
        cancelAt.isSome = true) :
    ∃ settled, runWith limits cancelAt store begin permits compiled = some settled := by
  induction compiled generalizing permits with
  | nil => exact ⟨[], rfl⟩
  | cons c rest ih =>
    obtain ⟨name, c⟩ := c
    have hrest := fun d hd => h d (List.mem_cons_of_mem _ hd)
    cases hc : c.statement with
    | none =>
      obtain ⟨others, hothers⟩ := ih permits hrest
      exact ⟨⟨name, c.shape, none⟩ :: others, by simp [runWith, hc, hothers]⟩
    | some statement =>
      obtain ⟨call, hcall⟩ := Call.exists_settle_eq_some
        (h _ List.mem_cons_self statement hc) (permits.next begin)
      obtain ⟨others, hothers⟩ := ih (permits.occupy call.finish) hrest
      exact ⟨⟨name, c.shape, some (statement, call)⟩ :: others,
        by simp [runWith, hc, hcall, hothers]⟩

end Schedule

end QueryBatch
