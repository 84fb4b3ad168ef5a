import QueryBatch.Proofs.Frame

/-! # The characters of written text

What a statement may hold beside the names in it is told from classes of characters: numbers are
written with digits, a point, signs and a few letters, so they have no dollar sign and no
parenthesis.

* `Text.Within`: all characters of a text are in a class, with `Text.within_append`,
  `Text.within_joined`.
* `toLower_eq_self_iff`: the characters that are no capitals.
* `isNumeral`: **the characters of numbers**; `within_toString_nat`, `within_toString_int`.
-/

namespace QueryBatch

namespace Text

/-- **A text within a class** of characters. -/
def Within (p : Char → Bool) (s : String) : Prop := ∀ c ∈ s.toList, p c = true

instance (p : Char → Bool) (s : String) : Decidable (Within p s) :=
  List.decidableBAll (fun c => p c = true) s.toList

variable {p q : Char → Bool} {s t separator : String} {l : List String}

theorem Within.mono (h : Within p s) (hq : ∀ c, p c = true → q c = true) : Within q s :=
  fun c hc => hq c (h c hc)

@[simp] theorem within_append : Within p (s ++ t) ↔ Within p s ∧ Within p t := by
  unfold Within
  rw [String.toList_append]
  constructor
  · intro h
    exact ⟨fun c hc => h c (List.mem_append_left _ hc),
      fun c hc => h c (List.mem_append_right _ hc)⟩
  · rintro ⟨hs, ht⟩ c hc
    rcases List.mem_append.mp hc with hc | hc
    · exact hs c hc
    · exact ht c hc

theorem within_led (hs : Within p separator) (hl : ∀ s ∈ l, Within p s) :
    Within p (led separator l) := by
  induction l with
  | nil => intro c hc; simp [led] at hc
  | cons s r ih =>
    rw [led, within_append, within_append]
    exact ⟨⟨hs, hl s List.mem_cons_self⟩, ih fun t ht => hl t (List.mem_cons_of_mem s ht)⟩

theorem within_joined (hs : Within p separator) (hl : ∀ s ∈ l, Within p s) :
    Within p (joined separator l) := by
  cases l with
  | nil => intro c hc; simp at hc
  | cons s r =>
    rw [joined_cons, within_append]
    exact ⟨hl s List.mem_cons_self, within_led hs fun t ht => hl t (List.mem_cons_of_mem s ht)⟩

theorem within_trim (h : Within p s) : Within p (trim s) := by
  intro c hc
  rw [trim, String.toList_ofList, trimChars, List.mem_reverse] at hc
  have hd := (List.dropWhile_sublist _).subset hc
  rw [List.mem_reverse] at hd
  exact h c ((List.dropWhile_sublist _).subset hd)

end Text

open Text

/-! ### Small letters -/

theorem toLower_eq_self_iff {c : Char} : c.toLower = c ↔ c.isUpper = false := by
  unfold Char.toLower Char.isUpper
  split
  · next h =>
    refine iff_of_false (fun hc => ?_) (by simpa using h)
    have hval := congrArg (fun c : Char => c.val) hc
    simp at hval
  · next h => exact iff_of_true rfl (by simpa using h)

theorem map_eq_self_iff {α : Type} {f : α → α} {l : List α} : l.map f = l ↔ ∀ a ∈ l, f a = a := by
  rw [← List.map_inj_left, List.map_id']

/-! ### Numbers -/

/-- **The characters of numbers**: digits, a point, signs, and the letters of an exponent, of an
infinite number and of what is no number. -/
def isNumeral (c : Char) : Bool :=
  c.isDigit || ['.', '-', '+', 'e', 'i', 'n', 'f', 'N', 'a'].contains c

theorem isNumeral_of_mem_toDigits {n : Nat} {c : Char} (h : c ∈ Nat.toDigits 10 n) :
    isNumeral c = true := by
  have hd := Nat.isDigit_of_mem_toDigits (by omega) (by omega) h
  simp [isNumeral, hd]

theorem within_toString_nat (n : Nat) : Within isNumeral (toString n) := by
  intro c hc
  rw [Nat.toString_eq_repr, Nat.toList_repr] at hc
  exact isNumeral_of_mem_toDigits hc

theorem toList_toString_ofNat (n : Nat) : (toString (Int.ofNat n)).toList = Nat.toDigits 10 n :=
  Nat.toList_repr

theorem toList_toString_negSucc (n : Nat) :
    (toString (Int.negSucc n)).toList = '-' :: Nat.toDigits 10 (n + 1) := by
  have hsign : toString (Int.negSucc n) = "-" ++ toString (n + 1) := rfl
  rw [hsign, String.toList_append, Nat.toString_eq_repr, Nat.toList_repr]
  rfl

theorem within_toString_int (i : Int) : Within isNumeral (toString i) := by
  intro c hc
  cases i with
  | ofNat n =>
    rw [toList_toString_ofNat] at hc
    exact isNumeral_of_mem_toDigits hc
  | negSucc n =>
    rw [toList_toString_negSucc] at hc
    rcases List.mem_cons.mp hc with rfl | hc
    · decide
    · exact isNumeral_of_mem_toDigits hc

end QueryBatch
