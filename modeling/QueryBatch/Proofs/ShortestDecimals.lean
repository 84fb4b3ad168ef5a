import QueryBatch.Number.Layout
import QueryBatch.Proofs.Numerals

/-! # Shortest decimals read back

A number is written with the fewest digits that are read back as the same number. The decimals that
read back are exactly those that are rounded to the number, and each decimal that is tried is tested
for it before it is taken, so what is written is read as the number itself. The layout moves the
point and adds zeros, and by that it changes the decimal but not its value.

* `Decimal.readsBack_iff`: **the decimals that read back**.
* `Decimal.readsBack_shortest`: **the shortest decimal reads back**.
* `Layout.exists_literal`: **numbers are written as literals that read back**.
* `Layout.real?_write`: **what is written of a number is read as the number**.
* `Layout.within_write`, `Json.Number.within_text`: the characters that numbers are written with.
-/

namespace QueryBatch

namespace Decimal

variable {x : Magnitude} {d d' : Decimal} {tie : Tie}

/-! ### Decimals that read back -/

/-- Two decimals stand for the same number. -/
def SameValue (d d' : Decimal) : Prop :=
  d.significand * (scale d.exponent).1 * (scale d'.exponent).2 =
    d'.significand * (scale d'.exponent).1 * (scale d.exponent).2

theorem sameValue_zero_end (n : Nat) (e : Int) : SameValue ⟨n * 10, e⟩ ⟨n, e + 1⟩ := by
  unfold SameValue scale
  simp only [Nat.pow_eq]
  rcases le_or_gt 0 e with he | he
  · rw [show (e + 1).toNat = e.toNat + 1 by omega, show (-e).toNat = 0 by omega,
      show (-(e + 1)).toNat = 0 by omega]
    ring
  · rw [show (e + 1).toNat = 0 by omega, show e.toNat = 0 by omega,
      show (-e).toNat = (-(e + 1)).toNat + 1 by omega]
    ring

theorem readsBack_iff_isNearest : ReadsBack x d ↔
    Magnitude.IsNearest (d.significand * (scale d.exponent).1 * Magnitude.unitsPerOne)
      (scale d.exponent).2 x.code := by
  have hhere : 2 * d.significand * Magnitude.unitsPerOne * (scale d.exponent).1 =
      2 * (d.significand * (scale d.exponent).1 * Magnitude.unitsPerOne) := by ring
  unfold ReadsBack midpoints
  simp only [hhere]
  split
  · next heven =>
    exact ⟨fun h => ⟨h.1, h.2, by omega, by omega⟩, fun h => ⟨h.low_le, h.le_high⟩⟩
  · next hodd =>
    have hodd : x.code % 2 = 1 := by omega
    exact ⟨fun h => ⟨h.1.le, h.2.le, fun _ => h.1, fun _ => h.2⟩,
      fun h => ⟨h.low_lt hodd, h.lt_high hodd⟩⟩

/-- **The decimals that read back** as a finite magnitude are those that are read as it. -/
theorem readsBack_iff (hx : x.isFinite = true) : ReadsBack x d ↔ d.toMagnitude = x := by
  have hx : x.code < Magnitude.topCode := of_decide_eq_true hx
  rw [readsBack_iff_isNearest, Magnitude.isNearest_iff (scale_snd_pos _), toMagnitude_eq_round,
    Magnitude.round]
  constructor
  · intro h
    rw [h]
    exact Magnitude.eq_of_code (min_eq_left hx.le)
  · intro h
    have hcode : min _ Magnitude.topCode = x.code := congrArg Magnitude.code h
    omega

theorem SameValue.readsBack (h : d.SameValue d') (hd : ReadsBack x d) : ReadsBack x d' := by
  rw [readsBack_iff_isNearest] at hd ⊢
  refine hd.congr (scale_snd_pos _) (scale_snd_pos _) ?_
  rw [Nat.mul_right_comm, h, Nat.mul_right_comm]

theorem readsBack_of_units (h : d.significand * (scale d.exponent).1 * Magnitude.unitsPerOne =
    x.units * (scale d.exponent).2) : ReadsBack x d := by
  rw [readsBack_iff_isNearest, h, Magnitude.isNearest_iff (scale_snd_pos _)]
  exact Magnitude.roundCode_units x (scale_snd_pos _)

/-! ### The shortest decimal -/

/-- What is taken from a grid is tested before. -/
theorem readsBack_of_onGrid {e : Int} (h : onGrid tie x e = some d) : ReadsBack x d := by
  unfold onGrid at h
  dsimp only at h
  split at h
  · next hlow =>
    split at h
    · next hhigh =>
      split at h
      · cases h
        exact hlow
      · split at h
        · cases h
          exact hhigh
        · split at h
          · cases h
            exact hhigh
          · cases h
            split
            · exact hlow
            · exact hhigh
    · cases h
      exact hlow
  · split at h
    · next hhigh =>
      cases h
      exact hhigh
    · cases h

theorem readsBack_strip (h : ReadsBack x d) : ReadsBack x d.strip := by
  fun_induction strip d with
  | case1 d hzero =>
    refine SameValue.readsBack ?_ h
    rw [SameValue, hzero, Nat.zero_mul, Nat.zero_mul, Nat.zero_mul, Nat.zero_mul]
  | case2 d hne hend ih =>
    -- a step of stripping keeps the value, so the shorter decimal reads back as well
    refine ih (SameValue.readsBack ?_ h)
    have hsignificand := Nat.div_mul_cancel (Nat.dvd_of_mod_eq_zero hend)
    have hsame := sameValue_zero_end (d.significand / 10) d.exponent
    rwa [hsignificand] at hsame
  | case3 d => exact h

/-- Written with enough places a magnitude is exact. -/
theorem readsBack_exact {k : Nat} (hk : Magnitude.unitsPerOne ∣ Nat.pow 10 k) :
    ReadsBack x ⟨x.units * Nat.pow 10 k / Magnitude.unitsPerOne, -k⟩ := by
  have hdvd := Nat.dvd_mul_left_of_dvd hk x.units
  have hscale : scale (-k) = (1, Nat.pow 10 k) := by simp [scale]
  refine readsBack_of_units ?_
  rw [hscale, Nat.mul_one, Nat.div_mul_cancel hdvd]

theorem unitsPerOne_dvd : Magnitude.unitsPerOne ∣ Nat.pow 10 1074 := by decide +kernel

/-- **The shortest decimal reads back.** -/
theorem readsBack_shortest (tie : Tie) (x : Magnitude) : ReadsBack x (shortest tie x) := by
  unfold shortest
  split
  · next hzero =>
    refine readsBack_of_units ?_
    rw [Magnitude.units, hzero, Nat.zero_mul, Nat.zero_mul]
    exact (Nat.zero_mul _).symm
  · refine readsBack_strip ?_
    cases hfound : (List.range 17).findSome? fun (n : Nat) => onGrid tie x (placeOf x - n) with
    | some d =>
      obtain ⟨n, -, hn⟩ := List.exists_of_findSome?_eq_some hfound
      rw [Option.getD_some]
      exact readsBack_of_onGrid hn
    | none =>
      -- no grid has a hit: the exact decimal is taken
      rw [Option.getD_none]
      have hexact := readsBack_exact (x := x) unitsPerOne_dvd
      exact hexact

theorem length_toDigits (n : Nat) : (Nat.toDigits 10 n).length = leadingPlace n + 1 := by
  fun_induction leadingPlace n with
  | case1 n h => rw [Nat.toDigits_of_lt_base h, List.length_singleton]
  | case2 n h ih =>
    rw [Nat.toDigits_of_base_le (by decide) (Nat.le_of_not_lt h), List.length_append, ih,
      List.length_singleton]

end Decimal

/-! ### Numbers as literals -/

namespace Numeral

theorem value_append (cs cs' : List Char) :
    value (cs ++ cs') = 10 ^ cs'.length * value cs + value cs' := by
  rw [value, List.foldl_append]
  exact Nat.ofDigitChars_eq_ofDigitChars_zero

theorem isDigit_of_mem_zeros {n : Nat} {c : Char} (h : c ∈ List.replicate n '0') :
    c.isDigit = true := by
  rw [List.eq_of_mem_replicate h]
  rfl

theorem value_zeros (n : Nat) : value (List.replicate n '0') = 0 :=
  Nat.ofDigitChars_replicate_zero

end Numeral

namespace Layout

variable (l : Layout) {digits : List Char}

/-- A whole number in full: zeros behind the digits, and behind a point if it is kept. -/
theorem exists_full_whole (hd : Numeral.isDigits digits = true) {e : Int} (he : 0 ≤ e) :
    ∃ lit : Numeral.Literal, l.full digits e = lit.chars ∧
      Decimal.SameValue ⟨Numeral.value digits, e⟩ lit.decimal ∧
      (l.keepsPoint = true → lit.fraction ≠ []) := by
  obtain ⟨exponent, rfl⟩ := Int.eq_ofNat_of_zero_le he
  obtain ⟨hne, hdigit⟩ := Numeral.isDigits_iff.mp hd
  obtain ⟨places, hplaces⟩ : ∃ places, places = if l.keepsPoint then 1 else 0 := ⟨_, rfl⟩
  rw [full, if_pos he, Int.toNat_natCast]
  set whole := digits ++ List.replicate exponent '0' with hwhole
  have hdigits : Numeral.isDigits whole = true := Numeral.isDigits_append hdigit
    (fun _ hc => Numeral.isDigit_of_mem_zeros hc) (List.append_ne_nil_of_left_ne_nil hne _)
  have hcs : Numeral.isDigits (whole ++ List.replicate places '0') = true :=
    Numeral.isDigits_append (Numeral.isDigits_iff.mp hdigits).2
      (fun _ hc => Numeral.isDigit_of_mem_zeros hc)
      (List.append_ne_nil_of_left_ne_nil (Numeral.isDigits_iff.mp hdigits).1 _)
  have hpos : 0 < whole.length := List.length_pos_iff.mpr (Numeral.isDigits_iff.mp hdigits).1
  have hvalue : Numeral.value whole = 10 ^ exponent * Numeral.value digits := by
    rw [hwhole, Numeral.value_append, Numeral.value_zeros, List.length_replicate, Nat.add_zero]
  refine ⟨.pointed (whole ++ List.replicate places '0') whole.length none false hcs hpos,
    ?_, ?_, fun h => ?_⟩
  · cases h : l.keepsPoint <;> simp [Numeral.Literal.pointed, Numeral.Literal.chars,
      Numeral.Literal.fractionChars, Numeral.Literal.exponentChars, hplaces, h]
  · rw [Numeral.Literal.decimal_pointed, List.length_append, List.length_replicate,
      Numeral.value_append, Numeral.value_zeros, List.length_replicate, hvalue, Option.getD_none,
      Nat.add_sub_cancel_left, Int.zero_sub]
    simp only [Decimal.SameValue, Decimal.scale, Int.toNat_natCast, Nat.pow_eq,
      Int.toNat_neg_natCast, pow_zero, neg_neg, add_zero, mul_one]
    ring
  · simp [Numeral.Literal.pointed, hplaces, h]

theorem exists_full_fraction (hd : Numeral.isDigits digits = true) {e : Int} (he : e < 0) :
    ∃ lit : Numeral.Literal, l.full digits e = lit.chars ∧
      lit.decimal = ⟨Numeral.value digits, e⟩ ∧ lit.fraction ≠ [] := by
  obtain ⟨places, hplaces, rfl⟩ : ∃ places : Nat, 0 < places ∧ e = -(places : Int) :=
    ⟨(-e).toNat, by omega, by omega⟩
  rw [full, if_neg (by omega), Int.neg_neg, Int.toNat_natCast]
  dsimp only
  set padded := List.replicate (places + 1 - digits.length) '0' ++ digits with hpadded
  have hlength : places < padded.length := by
    rw [hpadded, List.length_append, List.length_replicate]
    omega
  have hcs : Numeral.isDigits padded = true :=
    Numeral.isDigits_append (fun _ hc => Numeral.isDigit_of_mem_zeros hc)
      (Numeral.isDigits_iff.mp hd).2
      (List.append_ne_nil_of_right_ne_nil _ (Numeral.isDigits_iff.mp hd).1)
  have hpos : 0 < padded.length - places := by omega
  have hfraction : padded.drop (padded.length - places) ≠ [] := by
    rw [Ne, List.drop_eq_nil_iff]
    omega
  have hvalue : Numeral.value padded = Numeral.value digits := by
    rw [hpadded, Numeral.value_append, Numeral.value_zeros, Nat.mul_zero, Nat.zero_add]
  refine ⟨.pointed padded (padded.length - places) none false hcs hpos, ?_, ?_, hfraction⟩
  · simp only [Numeral.Literal.pointed, Numeral.Literal.chars, Numeral.Literal.fractionChars,
      Numeral.Literal.exponentChars, List.isEmpty_iff, if_neg hfraction, List.append_nil]
  · rw [Numeral.Literal.decimal_pointed, hvalue, Nat.sub_sub_self hlength.le, Option.getD_none,
      Int.zero_sub]

/-- A number with an exponent: the point stands behind the first digit, if others follow it. -/
theorem exists_scientific (hd : Numeral.isDigits digits = true) (place : Int) :
    ∃ lit : Numeral.Literal, l.scientific digits place = lit.chars ∧
      lit.decimal = ⟨Numeral.value digits, place - (digits.length - 1 : Nat)⟩ ∧
      lit.exponent ≠ none := by
  refine ⟨.pointed digits 1 (some place) l.signsExponent hd one_pos, ?_,
    Numeral.Literal.decimal_pointed hd one_pos, Option.some_ne_none _⟩
  simp [scientific, Numeral.Literal.pointed, Numeral.Literal.chars, Numeral.Literal.fractionChars,
    Numeral.Literal.exponentChars]

/-- **Numbers are written as literals that read back.** -/
theorem exists_literal (m : Magnitude) : ∃ lit : Numeral.Literal,
    l.magnitude m = lit.chars ∧ Decimal.ReadsBack m lit.decimal ∧
      (l.keepsPoint = true → lit.fraction ≠ [] ∨ lit.exponent ≠ none) := by
  have hback := Decimal.readsBack_shortest l.tie m
  have hdigits := Numeral.isDigits_toDigits (Decimal.shortest l.tie m).significand
  have hvalue := Numeral.value_toDigits (Decimal.shortest l.tie m).significand
  unfold magnitude
  dsimp only
  split
  · rcases le_or_gt 0 (Decimal.shortest l.tie m).exponent with he | he
    · obtain ⟨lit, hchars, hsame, hpoint⟩ := l.exists_full_whole hdigits he
      rw [hvalue] at hsame
      exact ⟨lit, hchars, hsame.readsBack hback, fun h => .inl (hpoint h)⟩
    · obtain ⟨lit, hchars, hdecimal, hpoint⟩ := l.exists_full_fraction hdigits he
      rw [hvalue] at hdecimal
      exact ⟨lit, hchars, hdecimal ▸ hback, fun _ => .inl hpoint⟩
  · obtain ⟨lit, hchars, hdecimal, hexponent⟩ :=
      l.exists_scientific hdigits (Decimal.shortest l.tie m).place
    rw [hvalue, Decimal.length_toDigits, Decimal.place, Nat.add_sub_cancel,
      add_sub_cancel_left] at hdecimal
    exact ⟨lit, hchars, hdecimal ▸ hback, fun _ => .inr hexponent⟩

/-- **What is written of a number is read as the number**, in every layout. -/
theorem real?_write {x : Binary64} (hx : x.isFinite = true) :
    Numeral.real? (l.write x).toList = some x := by
  cases x with
  | nan => cases hx
  | real s m =>
    have hm : m.isFinite = true := hx
    obtain ⟨lit, hchars, hback, -⟩ := l.exists_literal m
    have hmagnitude := (Decimal.readsBack_iff hm).mp hback
    rw [write, String.toList_ofList, if_pos hm, hchars]
    cases s with
    | true =>
      show (Numeral.unsigned? lit.chars).map Numeral.opposite = _
      rw [lit.unsigned?_chars, hmagnitude]
      rfl
    | false =>
      show Numeral.real? lit.chars = _
      rw [lit.real?_chars, hmagnitude]

theorem within_write (x : Binary64) : Text.Within isNumeral (l.write x) := by
  intro c hc
  cases x with
  | nan =>
    have hnan : Text.Within isNumeral "NaN" := by decide
    exact hnan c hc
  | real s m =>
    rw [write, String.toList_ofList] at hc
    rcases List.mem_append.mp hc with hc | hc
    · split at hc
      · rw [List.mem_singleton.mp hc]
        decide
      · cases hc
    · split at hc
      · obtain ⟨lit, hchars, -, -⟩ := l.exists_literal m
        exact lit.isNumeral_of_mem_chars (hchars ▸ hc)
      · have hinf : ∀ c ∈ ['i', 'n', 'f'], isNumeral c = true := List.all_eq_true.mp (by decide)
        exact hinf c hc

end Layout

theorem Json.Number.within_text (n : Json.Number) : Text.Within isNumeral n.text := by
  cases n with
  | int i _ => exact within_toString_int i
  | double x _ => exact Layout.within_write .json x

end QueryBatch
