import QueryBatch.Embedding.Fetching
import QueryBatch.Proofs.TaskProgress

/-! # What becomes of each fetch

However the turns of some fetches are mixed, those of one fetch are always the same few: none, then
the one at which it asks the service, then the one at which it ends. So a fetch comes to its own
result, whatever the others come to; and every choice of endings, one for each fetch, comes about in
some run. A run that cannot go on is over, if there is something for each fetch to end with.

* `FetchEnvironment.Offers`: the endings that there are for a fetch.
* `FetchTask.History`: a fetch beside its own turns. `Fetching.Sound`, `Fetching.Run.sound`: **every
  run is sound**.
* `Fetching.OwnEnding`, `Fetching.Run.exists_stage`: **when all fetches have ended**, each has ended
  once, with its own result.
* `Fetching.exists_run_of_offers`, `Fetching.exists_run_iff`: **any endings go together**.
* `Fetching.Run.length_le`, `Fetching.Sound.exists_step`: every run comes to its end.
-/

namespace QueryBatch

open Outcome

/-- **The endings that there are** for the fetch at a place, some time or other. -/
def FetchEnvironment.Offers (env : FetchEnvironment) (timeout : Option Nat) (place : Nat)
    (text : String) : FetchEnding → Prop
  | .answered result => env.answers place text result
  | .expired => timeout.isSome = true
  | .cancelled => env.cancels

theorem FetchEnvironment.MayEnd.offers {env : FetchEnvironment} {timeout : Option Nat}
    {isCancelled : Bool} {place : Nat} {text : String} {begun : Bool} {ending : FetchEnding}
    (h : env.MayEnd timeout isCancelled place text begun ending)
    (hc : isCancelled = true → env.cancels) : env.Offers timeout place text ending := by
  cases h with
  | answered _ h => exact h
  | expired h => exact h
  | cancelled h => exact hc h

/-- Once the batch is cancelled, or if it cannot be, all endings may come for a fetch that the
service has begun with. -/
theorem FetchEnvironment.Offers.mayEnd {env : FetchEnvironment} {timeout : Option Nat}
    {isCancelled : Bool} {place : Nat} {text : String} {ending : FetchEnding}
    (h : env.Offers timeout place text ending) (hc : env.cancels → isCancelled = true) :
    env.MayEnd timeout isCancelled place text true ending := by
  cases ending with
  | answered result => exact .answered rfl h
  | expired => exact .expired h
  | cancelled => exact .cancelled (hc h)

/-! ### Histories -/

theorem FetchTask.fetch?_eq_some {t : FetchTask} {f : Fetch} (h : t.fetch? = some f) :
    t = ⟨f.name, f.text, .settled f.took f.result⟩ := by
  obtain ⟨name, text, phase⟩ := t
  cases phase with
  | waiting | running => cases h
  | settled => cases h; rfl

/-- **A fetch beside its own turns**; at a place without a fetch there are none. -/
inductive FetchTask.History (timeout : Option Nat) (env : FetchEnvironment) (place : Nat) :
    Option FetchTask → List FetchTurn → Prop
  | absent : History timeout env place none []
  | waiting {name text : String} : History timeout env place (some ⟨name, text, .waiting⟩) []
  | running {name text : String} {begun : Bool}
    (hb : begun = true ∨ timeout.isSome = true ∨ env.cancels) :
    History timeout env place (some ⟨name, text, .running begun⟩) [.ask place text begun]
  | finished {name text : String} {begun isCancelled : Bool} {ending : FetchEnding} {took : Nat}
    (hc : isCancelled = true → env.cancels)
    (he : env.MayEnd timeout isCancelled place text begun ending) :
    History timeout env place (some ⟨name, text, .settled took (ending.result timeout)⟩)
      [.ask place text begun, .finish place ending took]

namespace Fetching

variable {timeout : Option Nat} {env : FetchEnvironment} {wanted : List (String × String)}
  {turns : List FetchTurn} {turn : FetchTurn} {s s' : Fetching}

/-- **All fetches beside the turns that were taken.** -/
structure Sound (timeout : Option Nat) (env : FetchEnvironment) (wanted : List (String × String))
    (turns : List FetchTurn) (s : Fetching) : Prop where
  texts : s.tasks.map (fun t => (t.name, t.text)) = wanted
  cancelled : s.isCancelled = true → env.cancels
  history : ∀ place : Nat, FetchTask.History timeout env place s.tasks[place]?
    (turns.filter (FetchTurn.isOf place))

theorem sound_ofWanted : Sound timeout env wanted [] (ofWanted wanted) := by
  refine ⟨?_, fun h => (Bool.false_ne_true h).elim, fun place => ?_⟩
  · rw [ofWanted, List.map_map]
    exact List.map_id _
  · rw [ofWanted, List.getElem?_map]
    cases wanted[place]? with
    | none => exact .absent
    | some w => exact .waiting

theorem map_texts_set {tasks : List FetchTask} {place : Nat} {name text : String}
    {phase : FetchPhase} (ht : tasks[place]? = some ⟨name, text, phase⟩) (phase' : FetchPhase) :
    (tasks.set place ⟨name, text, phase'⟩).map (fun t => (t.name, t.text)) =
      tasks.map fun t => (t.name, t.text) := by
  refine List.ext_getElem? fun i => ?_
  rw [List.map_set, List.getElem?_set']
  split
  · next h =>
    subst h
    rw [List.getElem?_map, ht]
    rfl
  · rfl

theorem history_set {tasks : List FetchTask} {place : Nat} {t t' : FetchTask}
    (ht : tasks[place]? = some t) (hturn : turn.place? = some place)
    (h : ∀ i : Nat, FetchTask.History timeout env i tasks[i]? (turns.filter (FetchTurn.isOf i)))
    (hnew : FetchTask.History timeout env place (some t) (turns.filter (FetchTurn.isOf place)) →
      FetchTask.History timeout env place (some t')
        (turns.filter (FetchTurn.isOf place) ++ [turn])) (i : Nat) :
    FetchTask.History timeout env i (tasks.set place t')[i]?
      ((turns ++ [turn]).filter (FetchTurn.isOf i)) := by
  rw [List.filter_append]
  by_cases hi : place = i
  · subst hi
    have hone : [turn].filter (FetchTurn.isOf place) = [turn] := by simp [FetchTurn.isOf, hturn]
    rw [List.getElem?_set_self (List.getElem?_eq_some_iff.mp ht).1, hone]
    exact hnew (ht ▸ h place)
  · have hnone : [turn].filter (FetchTurn.isOf i) = [] := by simp [FetchTurn.isOf, hturn, hi]
    rw [hnone, List.append_nil, List.getElem?_set_ne hi]
    exact h i

/-- **A turn keeps what is sound.** -/
theorem Sound.step (h : Sound timeout env wanted turns s) (hs : Step timeout env s turn s') :
    Sound timeout env wanted (turns ++ [turn]) s' := by
  obtain ⟨htexts, hcancelled, hhistory⟩ := h
  cases hs with
  | cancel he =>
    refine ⟨htexts, fun _ => he, fun i => ?_⟩
    rw [List.filter_append]
    simpa [FetchTurn.isOf, FetchTurn.place?] using hhistory i
  | ask ht hb =>
    refine ⟨(map_texts_set ht _).trans htexts, hcancelled, history_set ht rfl hhistory fun h => ?_⟩
    generalize turns.filter (FetchTurn.isOf _) = own at h ⊢
    cases h
    exact .running (hb.imp_right fun h => h.imp_right hcancelled)
  | finish ht he =>
    refine ⟨(map_texts_set ht _).trans htexts, hcancelled, history_set ht rfl hhistory fun h => ?_⟩
    generalize turns.filter (FetchTurn.isOf _) = own at h ⊢
    cases h
    exact .finished hcancelled he

/-- **Every run is sound.** -/
theorem Run.sound (h : Run timeout env (ofWanted wanted) turns s) :
    Sound timeout env wanted turns s := by
  induction h with
  | nil => exact sound_ofWanted
  | snoc _ hs ih => exact ih.step hs

/-! ### What the fetches have come to -/

/-- **The own ending of a fetch**: it has asked the service once, for its own text, one thing has
ended it, and its result is what that gives. The service has begun with the text, unless the
deadline or the cancellation was there at once. -/
structure OwnEnding (timeout : Option Nat) (env : FetchEnvironment) (place : Nat) (text : String)
    (turns : List FetchTurn) (ending : FetchEnding) : Prop where
  asked : asked place turns = [text]
  endings : endings place turns = [ending]
  offered : env.Offers timeout place text ending
  begun : begun place turns = [text] ∨
    begun place turns = [] ∧ (ending = .expired ∨ ending = .cancelled)

theorem exists_ownEnding_of_history {place took : Nat} {name text : String}
    {result : Except EmbeddingError (List Binary64)}
    (h : FetchTask.History timeout env place (some ⟨name, text, .settled took result⟩)
      (turns.filter (FetchTurn.isOf place))) :
    ∃ ending, OwnEnding timeout env place text turns ending ∧ result = ending.result timeout := by
  generalize hown : turns.filter (FetchTurn.isOf place) = own at h
  cases h with
  | @finished _ _ begun _ ending _ hc he =>
    refine ⟨ending, ⟨?_, ?_, he.offers hc, ?_⟩, rfl⟩
    · rw [asked, hown]
      rfl
    · rw [endings, hown]
      rfl
    · rw [Fetching.begun, hown]
      cases begun with
      | true => exact .inl rfl
      | false =>
        refine .inr ⟨rfl, ?_⟩
        cases he with
        | answered hb => cases hb
        | expired => exact .inl rfl
        | cancelled => exact .inr rfl

/-- **When all fetches have ended**, each has its own ending and its own result. -/
theorem Run.exists_stage (h : Run timeout env (ofWanted wanted) turns s) (ho : s.IsOver) :
    ∃ stage, s.stage? = some stage ∧ stage.isAsked = true ∧
      stage.fetches.map (fun f => (f.name, f.text)) = wanted ∧
      ∀ (place : Nat) f, stage.fetches[place]? = some f →
        ∃ ending, OwnEnding timeout env place f.text turns ending ∧
          f.result = ending.result timeout := by
  obtain ⟨fetches, hfetches⟩ : ∃ fetches, List.Forall₂ (fun (t : FetchTask) f => t.fetch? = some f)
      s.tasks fetches := exists_forall₂ fun t ht => Option.isSome_iff_exists.mp (ho t ht)
  refine ⟨⟨fetches, true⟩, by rw [stage?, mapM_eq_some.mpr hfetches, Option.map_some], rfl, ?_, ?_⟩
  · rw [← h.sound.texts]
    exact (map_eq_of_forall₂ hfetches fun t f hf => by rw [FetchTask.fetch?_eq_some hf]).symm
  · intro place f hf
    obtain ⟨hplace, rfl⟩ := List.getElem?_eq_some_iff.mp hf
    have hplace' : place < s.tasks.length := hfetches.length_eq ▸ hplace
    have htask : s.tasks[place] = _ := FetchTask.fetch?_eq_some (hfetches.get hplace' hplace)
    have hhistory := h.sound.history place
    rw [List.getElem?_eq_getElem hplace', htask] at hhistory
    exact exists_ownEnding_of_history hhistory

theorem Run.asked_eq_nil_of_length_le (h : Run timeout env (ofWanted wanted) turns s) {place : Nat}
    (hp : wanted.length ≤ place) : asked place turns = [] := by
  have hlength : s.tasks.length = wanted.length := by
    rw [← h.sound.texts, List.length_map]
  have hhistory := h.sound.history place
  rw [List.getElem?_eq_none (hlength ▸ hp)] at hhistory
  unfold asked
  generalize turns.filter (FetchTurn.isOf place) = own at hhistory
  cases hhistory
  rfl

/-! ### Endings that go together -/

/-- A fetch that has ended. -/
def settledTask (f : Fetch) : FetchTask := ⟨f.name, f.text, .settled f.took f.result⟩

/-- A fetch that has not had a turn. -/
def waitingTask (f : Fetch) : FetchTask := ⟨f.name, f.text, .waiting⟩

theorem ofWanted_eq {fetches : List Fetch} (h : fetches.map (fun f => (f.name, f.text)) = wanted) :
    ofWanted wanted = ⟨fetches.map waitingTask, false⟩ := by
  rw [← h, ofWanted, List.map_map]
  rfl

theorem stage?_settled (fetches : List Fetch) (isCancelled : Bool) :
    stage? ⟨fetches.map settledTask, isCancelled⟩ = some ⟨fetches, true⟩ := by
  have hall : (fetches.map settledTask).mapM FetchTask.fetch? = some fetches := by
    rw [mapM_eq_some, List.forall₂_map_left_iff]
    exact List.forall₂_same.mpr fun f _ => rfl
  rw [stage?, hall, Option.map_some]

theorem set_length_append {α : Type} (l r : List α) (a b : α) :
    (l ++ a :: r).set l.length b = l ++ b :: r := by
  simp

theorem step_ask (done rest : List FetchTask) (name text : String) (isCancelled : Bool) :
    Step timeout env ⟨done ++ ⟨name, text, .waiting⟩ :: rest, isCancelled⟩
      (.ask done.length text true)
      ⟨done ++ ⟨name, text, .running true⟩ :: rest, isCancelled⟩ := by
  rw [← set_length_append done rest ⟨name, text, .waiting⟩ ⟨name, text, .running true⟩]
  exact .ask (by simp) (.inl rfl)

theorem step_finish (done rest : List FetchTask) {name text : String} {isCancelled : Bool}
    {ending : FetchEnding} (took : Nat)
    (h : env.MayEnd timeout isCancelled done.length text true ending) :
    Step timeout env ⟨done ++ ⟨name, text, .running true⟩ :: rest, isCancelled⟩
      (.finish done.length ending took)
      ⟨done ++ ⟨name, text, .settled took (ending.result timeout)⟩ :: rest, isCancelled⟩ := by
  rw [← set_length_append done rest ⟨name, text, .running true⟩
    ⟨name, text, .settled took (ending.result timeout)⟩]
  exact .finish (by simp) h

/-- One fetch after the other asks and ends, as it has an ending. -/
theorem exists_run_of_mayEnd {start : Fetching} {isCancelled : Bool} (fetches : List Fetch)
    (h : ∀ (place : Nat) f, fetches[place]? = some f →
      ∃ ending, env.MayEnd timeout isCancelled place f.text true ending ∧
        f.result = ending.result timeout)
    (hrun : Run timeout env start turns ⟨fetches.map waitingTask, isCancelled⟩) :
    ∃ turns', Run timeout env start turns' ⟨fetches.map settledTask, isCancelled⟩ := by
  -- by induction on the fetches that are left when some have ended
  have hleft : ∀ rest done turns, fetches = done ++ rest →
      Run timeout env start turns
        ⟨done.map settledTask ++ rest.map waitingTask, isCancelled⟩ →
      ∃ turns', Run timeout env start turns' ⟨fetches.map settledTask, isCancelled⟩ := by
    intro rest
    induction rest with
    | nil =>
      rintro done turns rfl hrun
      exact ⟨turns, by simpa using hrun⟩
    | cons f rest ih =>
      intro done turns hf hrun
      have hplace : (done.map settledTask).length = done.length := List.length_map _
      obtain ⟨ending, hending, hresult⟩ := h done.length f (by simp [hf])
      rw [← hplace] at hending
      have hask := hrun.snoc (step_ask _ _ f.name f.text isCancelled)
      have hfinish := hask.snoc (step_finish _ _ f.took hending)
      have hsettled : done.map settledTask ++
          ⟨f.name, f.text, .settled f.took (ending.result timeout)⟩ :: rest.map waitingTask =
            (done ++ [f]).map settledTask ++ rest.map waitingTask := by
        rw [List.map_append, List.map_singleton, List.append_assoc, settledTask, hresult]
        rfl
      rw [hsettled] at hfinish
      exact ih (done ++ [f]) _ (by rw [hf, List.append_assoc]; rfl) hfinish
  exact hleft fetches [] turns rfl hrun

/-- **Any endings that there are for the fetches go together.** -/
theorem exists_run_of_offers {fetches : List Fetch}
    (ht : fetches.map (fun f => (f.name, f.text)) = wanted)
    (h : ∀ (place : Nat) f, fetches[place]? = some f →
      ∃ ending, env.Offers timeout place f.text ending ∧ f.result = ending.result timeout) :
    ∃ turns s, Run timeout env (ofWanted wanted) turns s ∧ s.IsOver ∧
      s.stage? = some ⟨fetches, true⟩ := by
  have hover : ∀ isCancelled, IsOver ⟨fetches.map settledTask, isCancelled⟩ := by
    intro isCancelled t ht
    obtain ⟨f, -, rfl⟩ := List.mem_map.mp ht
    rfl
  have hend : ∀ isCancelled, (env.cancels → isCancelled = true) → ∀ (place : Nat) f,
      fetches[place]? = some f → ∃ ending, env.MayEnd timeout isCancelled place f.text true ending ∧
        f.result = ending.result timeout := by
    intro isCancelled hc place f hf
    obtain ⟨ending, hending, hresult⟩ := h place f hf
    exact ⟨ending, hending.mayEnd hc, hresult⟩
  -- if the batch may be cancelled, it is cancelled first
  obtain ⟨isCancelled, hc, turns, hstart⟩ : ∃ isCancelled, (env.cancels → isCancelled = true) ∧
      ∃ turns, Run timeout env (ofWanted wanted) turns
        ⟨fetches.map waitingTask, isCancelled⟩ := by
    rw [ofWanted_eq ht]
    by_cases he : env.cancels
    · exact ⟨true, fun _ => rfl, _, Run.nil.snoc (.cancel he rfl)⟩
    · exact ⟨false, fun h => absurd h he, _, .nil⟩
  obtain ⟨turns', hrun⟩ := exists_run_of_mayEnd fetches (hend isCancelled hc) hstart
  exact ⟨turns', _, hrun, hover isCancelled, stage?_settled fetches isCancelled⟩

/-- **The results that some fetches can come to together** are those that each of them can come to,
whatever the others do. -/
theorem exists_run_iff {results : List (Except EmbeddingError (List Binary64))} :
    (∃ turns s stage, Run timeout env (ofWanted wanted) turns s ∧ s.IsOver ∧
      s.stage? = some stage ∧ stage.fetches.map Fetch.result = results) ↔
    results.length = wanted.length ∧ ∀ (place : Nat) w r, wanted[place]? = some w →
      results[place]? = some r →
        ∃ ending, env.Offers timeout place w.2 ending ∧ r = ending.result timeout := by
  constructor
  · rintro ⟨turns, s, stage, hrun, ho, hs, rfl⟩
    obtain ⟨stage', hs', -, htexts, heach⟩ := hrun.exists_stage ho
    cases hs.symm.trans hs'
    refine ⟨by rw [← htexts, List.length_map, List.length_map], fun place w r hw hr => ?_⟩
    rw [List.getElem?_map] at hr
    obtain ⟨f, hf, rfl⟩ := Option.map_eq_some_iff.mp hr
    rw [← htexts, List.getElem?_map, hf] at hw
    cases hw
    obtain ⟨ending, hown, hresult⟩ := heach place f hf
    exact ⟨ending, hown.offered, hresult⟩
  · rintro ⟨hlength, heach⟩
    let fetches : List Fetch := List.zipWith (fun w r => ⟨w.1, w.2, 0, r⟩) wanted results
    have htexts : fetches.map (fun f => (f.name, f.text)) = wanted :=
      List.ext_getElem (by simp [fetches, hlength]) fun i _ _ => by simp [fetches]
    have hresults : fetches.map Fetch.result = results :=
      List.ext_getElem (by simp [fetches, hlength]) fun i _ _ => by simp [fetches]
    obtain ⟨turns, s, hrun, ho, hs⟩ := exists_run_of_offers htexts fun place f hf => by
      obtain ⟨w, r, hw, hr, rfl⟩ := List.getElem?_zipWith_eq_some.mp hf
      exact heach place w r hw hr
    exact ⟨turns, s, _, hrun, ho, hs, hresults⟩

/-! ### Every run comes to its end -/

/-- A fetch has not had a turn. -/
def isWaiting (t : FetchTask) : Bool :=
  match t.phase with
  | .waiting => true
  | _ => false

/-- A fetch has asked and has not ended. -/
def isRunning (t : FetchTask) : Bool :=
  match t.phase with
  | .running _ => true
  | _ => false

/-- The number of turns that there may still be. -/
def left (s : Fetching) : Nat :=
  2 * s.tasks.countP isWaiting + s.tasks.countP isRunning + (!s.isCancelled).toNat

theorem countP_set (p : FetchTask → Bool) {place : Nat} {t u : FetchTask}
    (h : s.tasks[place]? = some t) (hs : s'.tasks = s.tasks.set place u) :
    s'.tasks.countP p + (p t).toNat = s.tasks.countP p + (p u).toNat := by
  rw [hs]
  exact Tasks.countP_set_add h u

/-- **Each turn leaves less to do.** -/
theorem Step.left_lt (h : Step timeout env s turn s') : s'.left < s.left := by
  unfold left
  generalize hs' : s' = next at h ⊢
  cases h with
  | cancel he hs => simp [hs]
  | ask ht | finish ht =>
    have hw := countP_set isWaiting ht (congrArg Fetching.tasks hs')
    have hr := countP_set isRunning ht (congrArg Fetching.tasks hs')
    have hc : s'.isCancelled = s.isCancelled := by rw [hs']
    rw [← hs', hc]
    simp only [isWaiting, isRunning, Bool.toNat_true, Bool.toNat_false] at hw hr
    omega

theorem Run.length_add_left_le (h : Run timeout env s turns s') :
    turns.length + s'.left ≤ s.left := by
  induction h with
  | nil => exact (Nat.zero_add _).le
  | snoc _ hs ih =>
    have hlt := hs.left_lt
    rw [List.length_append, List.length_singleton]
    omega

/-- **There are not many turns.** -/
theorem Run.length_le (h : Run timeout env (ofWanted wanted) turns s) :
    turns.length ≤ 2 * wanted.length + 1 := by
  have hle := h.length_add_left_le
  have hwaiting : (ofWanted wanted).tasks.countP isWaiting ≤ wanted.length :=
    List.countP_le_length.trans (List.length_map _).le
  have hrunning : (ofWanted wanted).tasks.countP isRunning = 0 := by
    refine List.countP_eq_zero.mpr fun t ht => ?_
    obtain ⟨w, -, rfl⟩ := List.mem_map.mp ht
    exact Bool.false_ne_true
  have hcancelled := Bool.toNat_le (!(ofWanted wanted).isCancelled)
  unfold left at hle
  omega

/-- **A run that cannot go on is over**, if there is something to end each fetch with. -/
theorem Sound.exists_step (h : Sound timeout env wanted turns s)
    (hends : ∀ (place : Nat) w, wanted[place]? = some w →
      ∃ ending, env.Offers timeout place w.2 ending) (ho : ¬ s.IsOver) :
    ∃ turn s', Step timeout env s turn s' := by
  obtain ⟨t, ht, hopen⟩ : ∃ t ∈ s.tasks, ¬ t.fetch?.isSome = true := by
    simpa [IsOver] using ho
  obtain ⟨place, hplace⟩ := List.getElem?_of_mem ht
  obtain ⟨name, text, phase⟩ := t
  have hwanted : wanted[place]? = some (name, text) := by
    rw [← h.texts, List.getElem?_map, hplace]
    rfl
  obtain ⟨ending, hending⟩ := hends place _ hwanted
  cases phase with
  | waiting => exact ⟨_, _, .ask hplace (.inl rfl)⟩
  | settled => exact absurd rfl hopen
  | running begun =>
    have hhistory := h.history place
    rw [hplace] at hhistory
    by_cases hc : env.cancels
    · -- a fetch can be cancelled once the batch is
      cases hs : s.isCancelled with
      | false => exact ⟨_, _, .cancel hc hs⟩
      | true => exact ⟨.finish place .cancelled 0, _, .finish hplace (.cancelled hs)⟩
    · cases begun with
      | true =>
        exact ⟨.finish place ending 0, _, .finish hplace (hending.mayEnd fun h => absurd h hc)⟩
      | false =>
        generalize turns.filter (FetchTurn.isOf place) = own at hhistory
        cases hhistory with
        | running hb =>
          obtain ht := (hb.resolve_left Bool.false_ne_true).resolve_right hc
          exact ⟨.finish place .expired 0, _, .finish hplace (.expired ht)⟩

end Fetching

end QueryBatch
