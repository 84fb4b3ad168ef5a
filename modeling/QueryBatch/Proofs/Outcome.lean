import Mathlib.Control.Monad.Basic
import Mathlib.Data.List.Forall2
import Mathlib.Data.List.Perm.Basic

/-! # Outcomes of two runs

Compilation and resolution give a value or an error. Two runs are *alike* under two relations if
both fail with errors that the one holds of, or if both give values that the other holds of.

* `bind_eq_ok`, `map_eq_ok`, `mapM_eq_ok`: what a run that succeeds has gone through;
  `bind_eq_error`, `map_eq_error`, `mapM_eq_error_iff`: where a run has failed.
* `forall₂_trans`, `exists_of_forall₂_left`, `exists_forall₂`: two lists that are related in step.
* `Alike`, `Alike.bind`, `Alike.mapM`: two runs in step.
-/

namespace QueryBatch.Outcome

variable {ε α β γ δ : Type}

theorem bind_eq_ok {x : Except ε α} {f : α → Except ε β} {b : β} :
    (x >>= f) = .ok b ↔ ∃ a, x = .ok a ∧ f a = .ok b := by
  cases x <;> simp [bind, Except.bind]

theorem map_eq_ok {x : Except ε α} {f : α → β} {b : β} :
    x.map f = .ok b ↔ ∃ a, x = .ok a ∧ f a = b := by
  cases x <;> simp [Except.map]

@[simp] theorem pure_eq_ok (a : α) : (pure a : Except ε α) = .ok a := rfl

theorem mapM_eq_ok {f : α → Except ε β} {l : List α} {r : List β} :
    l.mapM f = .ok r ↔ List.Forall₂ (fun a b => f a = .ok b) l r := by
  induction l generalizing r with
  | nil => simp [eq_comm]
  | cons a l ih =>
    simp only [List.mapM_cons, bind_eq_ok, List.forall₂_cons_left_iff, ih, pure_eq_ok,
      Except.ok.injEq, exists_and_left, eq_comm (b := r)]

theorem bind_eq_error {x : Except ε α} {f : α → Except ε β} {e : ε} :
    (x >>= f) = .error e ↔ x = .error e ∨ ∃ a, x = .ok a ∧ f a = .error e := by
  cases x <;> simp [bind, Except.bind]

theorem map_eq_error {x : Except ε α} {f : α → β} {e : ε} : x.map f = .error e ↔ x = .error e := by
  cases x <;> simp [Except.map]

theorem exists_eq_error_iff {x : Except ε α} : (∃ e, x = .error e) ↔ ¬ ∃ a, x = .ok a := by
  cases x <;> simp

theorem exists_eq_ok_of_isOk {x : Except ε α} (h : x.isOk = true) : ∃ a, x = .ok a := by
  cases x with
  | error e => cases h
  | ok a => exact ⟨a, rfl⟩

theorem exists_bind_eq_ok {x : Except ε α} {f : α → Except ε β} :
    (∃ b, (x >>= f) = .ok b) ↔ ∃ a, x = .ok a ∧ ∃ b, f a = .ok b := by
  simp only [bind_eq_ok]
  exact ⟨fun ⟨b, a, ha, hb⟩ => ⟨a, ha, b, hb⟩, fun ⟨a, ha, b, hb⟩ => ⟨b, a, ha, hb⟩⟩

theorem exists_map_eq_ok_iff {x : Except ε α} {f : α → β} {p : β → Prop} :
    (∃ b, x.map f = .ok b ∧ p b) ↔ ∃ a, x = .ok a ∧ p (f a) := by
  cases x <;> simp [Except.map]

theorem mapM_eq_some {f : α → Option β} {l : List α} {r : List β} :
    l.mapM f = some r ↔ List.Forall₂ (fun a b => f a = some b) l r := by
  induction l generalizing r with
  | nil => simp [eq_comm]
  | cons a l ih =>
    simp only [List.mapM_cons, Option.bind_eq_bind, Option.bind_eq_some_iff, Option.pure_def,
      List.forall₂_cons_left_iff, ih, Option.some.injEq, exists_and_left, eq_comm (b := r)]

theorem map_eq_of_forall₂ {R : α → β → Prop} {f : α → γ} {g : β → γ} {l : List α} {m : List β}
    (h : List.Forall₂ R l m) (hR : ∀ a b, R a b → f a = g b) : l.map f = m.map g := by
  induction h with
  | nil => rfl
  | cons hab _ ih => rw [List.map_cons, List.map_cons, hR _ _ hab, ih]

theorem forall₂_trans {R : α → β → Prop} {S : β → γ → Prop} {T : α → γ → Prop} {l : List α}
    {m : List β} {n : List γ} (h : List.Forall₂ R l m) (h' : List.Forall₂ S m n)
    (hT : ∀ a b c, R a b → S b c → T a c) : List.Forall₂ T l n := by
  induction h generalizing n with
  | nil =>
    cases h'
    exact .nil
  | cons hab _ ih =>
    cases h' with
    | cons hbc hr => exact .cons (hT _ _ _ hab hbc) (ih hr)

theorem exists_of_forall₂_right {R : α → β → Prop} {l : List α} {m : List β} {b : β}
    (h : List.Forall₂ R l m) (hb : b ∈ m) : ∃ a ∈ l, R a b := by
  induction h with
  | nil => cases hb
  | @cons a b' _ _ hab _ ih =>
    rcases List.mem_cons.mp hb with rfl | hb
    · exact ⟨a, List.mem_cons_self, hab⟩
    · obtain ⟨a', ha', hr⟩ := ih hb
      exact ⟨a', List.mem_cons_of_mem a ha', hr⟩

theorem exists_of_forall₂_left {R : α → β → Prop} {l : List α} {m : List β} {a : α}
    (h : List.Forall₂ R l m) (ha : a ∈ l) : ∃ b ∈ m, R a b :=
  exists_of_forall₂_right h.flip ha

theorem exists_forall₂ {R : α → β → Prop} {l : List α}
    (h : ∀ a ∈ l, ∃ b, R a b) : ∃ m, List.Forall₂ R l m := by
  induction l with
  | nil => exact ⟨[], .nil⟩
  | cons a r ih =>
    obtain ⟨b, hb⟩ := h a List.mem_cons_self
    obtain ⟨m, hm⟩ := ih fun a ha => h a (List.mem_cons_of_mem _ ha)
    exact ⟨b :: m, .cons hb hm⟩

theorem exists_append_of_forall₂ {R : α → β → Prop} {l l' : List α} {m : List β}
    (h : List.Forall₂ R (l ++ l') m) :
    ∃ n n', m = n ++ n' ∧ List.Forall₂ R l n ∧ List.Forall₂ R l' n' := by
  induction l generalizing m with
  | nil => exact ⟨[], m, rfl, .nil, h⟩
  | cons a l ih =>
    cases h with
    | @cons _ b _ _ hab hr =>
      obtain ⟨n, n', rfl, hn, hn'⟩ := ih hr
      exact ⟨b :: n, n', rfl, .cons hab hn, hn'⟩

theorem rel_imp {R S : α → β → Prop} {o : Option α} {o' : Option β} (h : Option.Rel R o o')
    (hS : ∀ a, o = some a → ∀ b, o' = some b → R a b → S a b) : Option.Rel S o o' := by
  cases h with
  | none => exact .none
  | some hr => exact .some (hS _ rfl _ rfl hr)

theorem exists_mapM_eq_ok_iff {f : α → Except ε β} {l : List α} :
    (∃ r, l.mapM f = .ok r) ↔ ∀ a ∈ l, ∃ b, f a = .ok b := by
  simp only [mapM_eq_ok]
  exact ⟨fun ⟨_, hr⟩ a ha => (exists_of_forall₂_left hr ha).imp fun _ hb => hb.2, exists_forall₂⟩

/-- A run over a list fails at the first member for which it fails. -/
theorem mapM_eq_error_iff {f : α → Except ε β} {l : List α} {e : ε} :
    l.mapM f = .error e ↔ ∃ before a after, l = before ++ a :: after ∧
      (∀ a' ∈ before, ∃ b, f a' = .ok b) ∧ f a = .error e := by
  induction l with
  | nil => simp
  | cons a l ih =>
    have hpure : ∀ b, (do let bs ← l.mapM f; pure (b :: bs)) = .error e ↔ l.mapM f = .error e := by
      intro b
      simp [bind_eq_error]
    simp only [List.mapM_cons, bind_eq_error (x := f a), hpure, ih]
    constructor
    · rintro (ha | ⟨b, ha, before, a', after, rfl, hbefore, ha'⟩)
      · exact ⟨[], a, l, rfl, fun _ h => absurd h List.not_mem_nil, ha⟩
      · refine ⟨a :: before, a', after, rfl, fun c hc => ?_, ha'⟩
        rcases List.mem_cons.mp hc with rfl | hc
        · exact ⟨b, ha⟩
        · exact hbefore c hc
    · rintro ⟨before, a', after, h, hbefore, ha'⟩
      cases before with
      | nil =>
        cases h
        exact .inl ha'
      | cons c before =>
        cases h
        obtain ⟨b, hb⟩ := hbefore a List.mem_cons_self
        exact .inr ⟨b, hb, before, a', after, rfl,
          fun c hc => hbefore c (List.mem_cons_of_mem _ hc), ha'⟩

theorem exists_mapM_of_perm {f : α → Except ε β} {l l' : List α} {r : List β} (hp : l'.Perm l)
    (h : l.mapM f = .ok r) : ∃ r', l'.mapM f = .ok r' ∧ r'.Perm r := by
  obtain ⟨r', hr', hperm⟩ := List.perm_comp_forall₂ hp (mapM_eq_ok.mp h)
  exact ⟨r', mapM_eq_ok.mpr hr', hperm⟩

/-- **Two runs are alike**: both fail with errors that are related, or both give values that
are. -/
inductive Alike (E : ε → ε → Prop) (R : α → β → Prop) : Except ε α → Except ε β → Prop
  | failed {e e' : ε} (related : E e e') : Alike E R (.error e) (.error e')
  | done {a : α} {b : β} (related : R a b) : Alike E R (.ok a) (.ok b)

/-- What the errors are does not matter. -/
abbrev AnyErrors (_ _ : ε) : Prop := True

namespace Alike

variable {E : ε → ε → Prop} {R : α → β → Prop} {S : γ → δ → Prop}

theorem refl {Q : α → α → Prop} (he : ∀ e, E e e) (h : ∀ a, Q a a) (x : Except ε α) :
    Alike E Q x x := by
  cases x with
  | error e => exact .failed (he e)
  | ok a => exact .done (h a)

theorem same (he : ∀ e, E e e) (x : Except ε α) : Alike E Eq x x := refl he (fun _ => rfl) x

theorem bind {x : Except ε α} {y : Except ε β} {f : α → Except ε γ} {g : β → Except ε δ}
    (h : Alike E R x y) (hf : ∀ a b, R a b → Alike E S (f a) (g b)) :
    Alike E S (x >>= f) (y >>= g) := by
  cases h with
  | failed he => exact .failed he
  | done hr => exact hf _ _ hr

theorem map {x : Except ε α} {y : Except ε β} {f : α → γ} {g : β → δ}
    (h : Alike E R x y) (hf : ∀ a b, R a b → S (f a) (g b)) : Alike E S (x.map f) (y.map g) := by
  cases h with
  | failed he => exact .failed he
  | done hr => exact .done (hf _ _ hr)

/-- A relation between the values may use what is known of each run alone. -/
theorem imp {Q : α → β → Prop} {x : Except ε α} {y : Except ε β} (h : Alike E R x y)
    (hQ : ∀ a b, x = .ok a → y = .ok b → R a b → Q a b) : Alike E Q x y := by
  cases h with
  | failed he => exact .failed he
  | done hr => exact .done (hQ _ _ rfl rfl hr)

theorem mapM {f : γ → Except ε α} {g : γ → Except ε β} {l : List γ}
    (h : ∀ c ∈ l, Alike E R (f c) (g c)) : Alike E (List.Forall₂ R) (l.mapM f) (l.mapM g) := by
  induction l with
  | nil => exact .done .nil
  | cons c r ih =>
    rw [List.mapM_cons, List.mapM_cons]
    refine (h c List.mem_cons_self).bind fun a b hab => ?_
    refine (ih fun c hc => h c (List.mem_cons_of_mem _ hc)).bind fun as bs hr => ?_
    exact .done (.cons hab hr)

theorem mapM_of_perm (f : α → Except ε β) {l l' : List α} (hp : l'.Perm l) :
    Alike AnyErrors List.Perm (l'.mapM f) (l.mapM f) := by
  cases h : l.mapM f with
  | ok r =>
    obtain ⟨r', h', hperm⟩ := exists_mapM_of_perm hp h
    rw [h']
    exact .done hperm
  | error e =>
    cases h' : l'.mapM f with
    | error e' => exact .failed trivial
    | ok r' =>
      obtain ⟨r, hr, -⟩ := exists_mapM_of_perm hp.symm h'
      rw [h] at hr
      cases hr

end Alike

end QueryBatch.Outcome
