import Mathlib.Data.Nat.Log
import Mathlib.Tactic.Linarith
import Mathlib.Tactic.Ring
import QueryBatch.Number.Binary64

/-! # Rounding keeps the order

The codes of the magnitudes stand in the order of their values, and a quotient is rounded to the one
code that has it between the midpoints to its two neighbours. From these brackets alone it follows
that a greater number is never rounded to a smaller code, so each operation that rounds once keeps
the order of its operands, and so does a chain of them. The same brackets say that a rounding moves
a number by half a step at most, so along a chain of operations the errors can be added up.

* `Magnitude.unitsOfCode_succ`, `Magnitude.unitsOfCode_le`: the values of the codes ascend.
* `Magnitude.isNearest_iff`: **the code that a quotient is rounded to** is the nearest one.
* `Magnitude.IsNearest.congr`: equal quotients are rounded alike.
* `Magnitude.le_roundCode`, `Magnitude.roundCode_le`: **the brackets** of a rounded quotient.
* `Magnitude.roundCode_mono`: **rounding keeps the order**; `Magnitude.add_code_le`,
  `Magnitude.mul_code_le`, `Magnitude.div_code_le`, `Magnitude.toNearest_code_le` for the
  operations.
* `Magnitude.ofNat_isFinite`: the numbers that are never rounded to infinity.
* `Magnitude.units_ofNat`, `Magnitude.roundCode_units`: values that are not rounded.
* `Magnitude.IsClose`, `Magnitude.isClose_roundCode`: **the error of a rounding**, and
  `Magnitude.isClose_add`, `Magnitude.isClose_mul`, `Magnitude.toNearest_eq` for the operations.
* `Magnitude.add_fraction_code_le`: a fraction does not carry a number past the next whole one.
-/

namespace QueryBatch

namespace Magnitude

/-! ### The values of the codes -/

/-- The step from the value of a code to the next one. -/
def stepOfCode (c : Nat) : Nat := 2 ^ (c / 2 ^ 52 - 1)

theorem unitsOfCode_succ (c : Nat) : unitsOfCode (c + 1) = unitsOfCode c + stepOfCode c := by
  unfold unitsOfCode stepOfCode
  simp only [Nat.pow_eq]
  by_cases hsmall : c + 1 < 2 ^ 53
  · rw [if_pos hsmall, if_pos (by omega), show c / 2 ^ 52 - 1 = 0 by omega, pow_zero]
  by_cases hlast : c < 2 ^ 53
  · obtain rfl : c = 2 ^ 53 - 1 := by omega
    norm_num
  rw [if_neg hsmall, if_neg hlast]
  by_cases hcarry : c % 2 ^ 52 = 2 ^ 52 - 1
  · -- the run of codes ends here, and the next one has a step twice as long
    rw [show (c + 1) % 2 ^ 52 = 0 by omega,
      show (c + 1) / 2 ^ 52 - 1 = c / 2 ^ 52 - 1 + 1 by omega, hcarry, pow_succ]
    ring
  · rw [show (c + 1) % 2 ^ 52 = c % 2 ^ 52 + 1 by omega,
      show (c + 1) / 2 ^ 52 = c / 2 ^ 52 by omega]
    ring

/-- **The values of the codes ascend.** -/
theorem unitsOfCode_le {c c' : Nat} (h : c ≤ c') : unitsOfCode c ≤ unitsOfCode c' :=
  monotone_nat_of_le_succ (fun c => by rw [unitsOfCode_succ]; exact Nat.le_add_right _ _) h

theorem unitsOfCode_lt {c c' : Nat} (h : c < c') : unitsOfCode c < unitsOfCode c' := by
  refine lt_of_lt_of_le ?_ (unitsOfCode_le h)
  rw [unitsOfCode_succ]
  exact Nat.lt_add_of_pos_right (Nat.two_pow_pos _)

theorem units_le {x y : Magnitude} (h : x.code ≤ y.code) : x.units ≤ y.units := unitsOfCode_le h

/-! ### The brackets of a rounded quotient -/

/-- A number cut to 53 significant bits; `shift` bits are cut off. -/
structure IsCut (whole shift kept : Nat) : Prop where
  lt : kept < 2 ^ 53
  full : shift ≠ 0 → 2 ^ 52 ≤ kept
  le : kept * 2 ^ shift ≤ whole
  lt_succ : whole < (kept + 1) * 2 ^ shift

theorem isCut (whole : Nat) :
    IsCut whole (Nat.log2 whole - 52) (whole / 2 ^ (Nat.log2 whole - 52)) := by
  have hpos : 0 < 2 ^ (Nat.log2 whole - 52) := Nat.two_pow_pos _
  refine ⟨?_, fun hshift => ?_, Nat.div_mul_le_self _ _, ?_⟩
  · rw [Nat.div_lt_iff_lt_mul hpos, ← pow_add]
    exact Nat.lt_log2_self.trans_le (Nat.pow_le_pow_right two_pos (by omega))
  · have hne : whole ≠ 0 := by
      rintro rfl
      exact hshift rfl
    rw [Nat.le_div_iff_mul_le hpos, ← pow_add, show 52 + (Nat.log2 whole - 52) = Nat.log2 whole by
      omega]
    exact Nat.log2_self_le hne
  · rw [← Nat.div_lt_iff_lt_mul hpos]
    exact Nat.lt_succ_self _

namespace IsCut

variable {whole shift kept : Nat}

theorem stepOfCode_eq (h : IsCut whole shift kept) :
    stepOfCode (shift * 2 ^ 52 + kept) = 2 ^ shift := by
  have hlt := h.lt
  unfold stepOfCode
  by_cases hshift : shift = 0
  · subst hshift
    rw [show (0 * 2 ^ 52 + kept) / 2 ^ 52 - 1 = 0 by omega]
  · have hfull := h.full hshift
    rw [show (shift * 2 ^ 52 + kept) / 2 ^ 52 - 1 = shift by omega]

theorem unitsOfCode_eq (h : IsCut whole shift kept) :
    unitsOfCode (shift * 2 ^ 52 + kept) = kept * 2 ^ shift := by
  have hlt := h.lt
  unfold unitsOfCode
  simp only [Nat.pow_eq]
  by_cases hshift : shift = 0
  · subst hshift
    rw [if_pos (by omega), pow_zero]
    omega
  · have hfull := h.full hshift
    rw [if_neg (by omega), show (shift * 2 ^ 52 + kept) / 2 ^ 52 - 1 = shift by omega,
      show 2 ^ 52 + (shift * 2 ^ 52 + kept) % 2 ^ 52 = kept by omega]

end IsCut

/-- What rounding does: the quotient lies at the code that is cut or above it, below the next one,
and the nearer of the two is taken, on the midpoint the even one. -/
theorem exists_roundCode (n : Nat) {d : Nat} (hd : 0 < d) : ∃ c,
    unitsOfCode c * d ≤ n ∧ n < unitsOfCode (c + 1) * d ∧
      roundCode n d = if 2 * n < (unitsOfCode c + unitsOfCode (c + 1)) * d ∨
        (2 * n = (unitsOfCode c + unitsOfCode (c + 1)) * d ∧ c % 2 = 0) then c else c + 1 := by
  have hcut := isCut (n / d)
  set shift := Nat.log2 (n / d) - 52 with hshift
  set kept := n / d / 2 ^ shift with hkept
  have hlow : kept * 2 ^ shift * d ≤ n :=
    (Nat.mul_le_mul_right d hcut.le).trans (Nat.div_mul_le_self n d)
  have hhigh : n < (kept * 2 ^ shift + 2 ^ shift) * d := by
    have := (Nat.div_lt_iff_lt_mul hd).mp hcut.lt_succ
    rwa [Nat.add_one_mul] at this
  refine ⟨shift * 2 ^ 52 + kept, ?_, ?_, ?_⟩
  · rwa [hcut.unitsOfCode_eq]
  · rwa [unitsOfCode_succ, hcut.unitsOfCode_eq, hcut.stepOfCode_eq]
  · rw [unitsOfCode_succ, hcut.unitsOfCode_eq, hcut.stepOfCode_eq]
    unfold roundCode
    simp only [Nat.pow_eq, ← hshift, ← hkept]
    generalize kept * 2 ^ shift = value at hlow hhigh ⊢
    have hmid : (value + (value + 2 ^ shift)) * d = 2 * (value * d) + 2 ^ shift * d := by ring
    rw [hmid]
    exact if_congr (by omega) rfl rfl

/-- The code `c` is the nearest one to `n / d` units: the quotient lies between the midpoints to the
neighbours of `c`, and on a midpoint only if `c` is even. -/
structure IsNearest (n d c : Nat) : Prop where
  low_le : (unitsOfCode (c - 1) + unitsOfCode c) * d ≤ 2 * n
  le_high : 2 * n ≤ (unitsOfCode c + unitsOfCode (c + 1)) * d
  low_lt : c % 2 = 1 → (unitsOfCode (c - 1) + unitsOfCode c) * d < 2 * n
  lt_high : c % 2 = 1 → 2 * n < (unitsOfCode c + unitsOfCode (c + 1)) * d

namespace IsNearest

variable {n d c c' : Nat}

theorem of_le (hd : 0 < d) (hle : unitsOfCode c * d ≤ n)
    (hhigh : 2 * n ≤ (unitsOfCode c + unitsOfCode (c + 1)) * d)
    (hodd : c % 2 = 1 → 2 * n < (unitsOfCode c + unitsOfCode (c + 1)) * d) :
    IsNearest n d c := by
  refine ⟨?_, hhigh, fun hc => ?_, hodd⟩
  · have hbelow := Nat.mul_le_mul_right d (unitsOfCode_le (Nat.sub_le c 1))
    rw [Nat.add_mul]
    omega
  · have hbelow := Nat.mul_lt_mul_of_pos_right (unitsOfCode_lt (show c - 1 < c by omega)) hd
    rw [Nat.add_mul]
    omega

theorem not_lt (hd : 0 < d) (h : IsNearest n d c) (h' : IsNearest n d c') : ¬ c < c' := by
  intro hlt
  have hhigh := h.le_high
  have hlow := h'.low_le
  by_cases hnext : c' = c + 1
  · -- both codes meet at one midpoint, which belongs to the even one
    subst hnext
    rw [Nat.add_sub_cancel] at hlow
    rcases Nat.mod_two_eq_zero_or_one c with hc | hc
    · have hlow := h'.low_lt (by omega)
      rw [Nat.add_sub_cancel] at hlow
      omega
    · have hhigh := h.lt_high hc
      omega
  · have hbelow := Nat.mul_lt_mul_of_pos_right (unitsOfCode_lt (show c < c' - 1 by omega)) hd
    have habove := Nat.mul_le_mul_right d (unitsOfCode_le (show c + 1 ≤ c' from hlt))
    rw [Nat.add_mul] at hhigh hlow
    omega

theorem unique (hd : 0 < d) (h : IsNearest n d c) (h' : IsNearest n d c') : c = c' :=
  le_antisymm (Nat.le_of_not_lt (h'.not_lt hd h)) (Nat.le_of_not_lt (h.not_lt hd h'))

variable {n' d' : Nat}

theorem mul_le_iff_of_mul_eq (hd : 0 < d) (hd' : 0 < d') (h : n * d' = n' * d) (m : Nat) :
    m * d ≤ 2 * n ↔ m * d' ≤ 2 * n' := by
  rw [← Nat.mul_le_mul_right_iff hd', ← Nat.mul_le_mul_right_iff (n := m * d') hd,
    Nat.mul_right_comm m d' d, Nat.mul_assoc 2 n, Nat.mul_assoc 2 n', h]

theorem le_mul_iff_of_mul_eq (hd : 0 < d) (hd' : 0 < d') (h : n * d' = n' * d) (m : Nat) :
    2 * n ≤ m * d ↔ 2 * n' ≤ m * d' := by
  rw [← Nat.mul_le_mul_right_iff hd', ← Nat.mul_le_mul_right_iff (m := m * d') hd,
    Nat.mul_right_comm m d' d, Nat.mul_assoc 2 n, Nat.mul_assoc 2 n', h]

theorem congr (hd : 0 < d) (hd' : 0 < d') (h : n * d' = n' * d)
    (hc : IsNearest n d c) : IsNearest n' d' c where
  low_le := (mul_le_iff_of_mul_eq hd hd' h _).mp hc.low_le
  le_high := (le_mul_iff_of_mul_eq hd hd' h _).mp hc.le_high
  low_lt hodd := lt_of_not_ge fun hle =>
    (hc.low_lt hodd).not_ge ((le_mul_iff_of_mul_eq hd hd' h _).mpr hle)
  lt_high hodd := lt_of_not_ge fun hle =>
    (hc.lt_high hodd).not_ge ((mul_le_iff_of_mul_eq hd hd' h _).mpr hle)

end IsNearest

/-- **A quotient is rounded to the nearest code.** -/
theorem isNearest_roundCode (n : Nat) {d : Nat} (hd : 0 < d) : IsNearest n d (roundCode n d) := by
  obtain ⟨c, hle, hlt, hround⟩ := exists_roundCode n hd
  rw [hround]
  split
  · next hlow => exact .of_le hd hle (by omega) (by omega)
  · next hhigh =>
    have hnext := Nat.mul_lt_mul_of_pos_right (unitsOfCode_lt (Nat.lt_add_one (c + 1))) hd
    refine ⟨?_, ?_, fun hc => ?_, fun _ => ?_⟩
    · rw [Nat.add_sub_cancel]
      omega
    · rw [Nat.add_mul]
      omega
    · rw [Nat.add_sub_cancel]
      omega
    · rw [Nat.add_mul]
      omega

theorem isNearest_iff {n d c : Nat} (hd : 0 < d) : IsNearest n d c ↔ roundCode n d = c := by
  refine ⟨(isNearest_roundCode n hd).unique hd, ?_⟩
  rintro rfl
  exact isNearest_roundCode n hd

/-- **The upper bracket**: a quotient is not beyond the midpoint to the next code. -/
theorem le_roundCode (n : Nat) {d : Nat} (hd : 0 < d) :
    2 * n ≤ (unitsOfCode (roundCode n d) + unitsOfCode (roundCode n d + 1)) * d :=
  (isNearest_roundCode n hd).le_high

/-- **The lower bracket**: a quotient is not below the midpoint to the code before. -/
theorem roundCode_le (n : Nat) {d c : Nat} (hd : 0 < d) (hc : c < roundCode n d) :
    (unitsOfCode c + unitsOfCode (c + 1)) * d ≤ 2 * n :=
  (Nat.mul_le_mul_right d (Nat.add_le_add (unitsOfCode_le (Nat.le_sub_one_of_lt hc))
    (unitsOfCode_le hc))).trans (isNearest_roundCode n hd).low_le

/-- **Rounding keeps the order.** -/
theorem roundCode_mono {n n' d : Nat} (hd : 0 < d) (h : n ≤ n') :
    roundCode n d ≤ roundCode n' d := by
  by_contra hlt
  rw [not_le] at hlt
  -- the midpoint above the one code is not above the midpoint below the other
  have hlow := roundCode_le n hd hlt
  have hhigh := le_roundCode n' hd
  obtain rfl : n = n' := by omega
  exact lt_irrefl _ hlt

/-! ### Operations -/

theorem ofCode_code_le {c c' : Nat} (h : c ≤ c') : (ofCode c).code ≤ (ofCode c').code :=
  min_le_min_right _ h

theorem round_code_le {n n' d : Nat} (hd : 0 < d) (h : n ≤ n') :
    (round n d).code ≤ (round n' d).code :=
  ofCode_code_le (roundCode_mono hd (Nat.mul_le_mul_right _ h))

theorem ofNat_code_le {n n' : Nat} (h : n ≤ n') : (ofNat n).code ≤ (ofNat n').code :=
  round_code_le one_pos h

theorem code_le_infinite (x : Magnitude) : x.code ≤ infinite.code := x.code_le

theorem isFinite_of_le {x y : Magnitude} (h : x.code ≤ y.code) (hy : y.isFinite = true) :
    x.isFinite = true :=
  decide_eq_true (h.trans_lt (of_decide_eq_true hy))

variable {x x' y y' : Magnitude}

theorem add_code_le (hx : x.code ≤ x'.code) (hy : y.code ≤ y'.code) :
    (x.add y).code ≤ (x'.add y').code := by
  unfold add
  by_cases h : (x'.isFinite && y'.isFinite) = true
  · have hfinite := Bool.and_eq_true_iff.mp h
    rw [if_pos h, if_pos (Bool.and_eq_true_iff.mpr
      ⟨isFinite_of_le hx hfinite.1, isFinite_of_le hy hfinite.2⟩)]
    exact round_code_le unitsPerOne_pos (Nat.add_le_add (units_le hx) (units_le hy))
  · rw [if_neg h]
    exact code_le_infinite _

theorem mul_code_le (hx : x.code ≤ x'.code) (hy : y.code ≤ y'.code) :
    (x.mul y).code ≤ (x'.mul y').code := by
  unfold mul
  by_cases h : (x'.isFinite && y'.isFinite) = true
  · have hfinite := Bool.and_eq_true_iff.mp h
    rw [if_pos h, if_pos (Bool.and_eq_true_iff.mpr
      ⟨isFinite_of_le hx hfinite.1, isFinite_of_le hy hfinite.2⟩)]
    exact round_code_le (Nat.mul_pos unitsPerOne_pos unitsPerOne_pos)
      (Nat.mul_le_mul (units_le hx) (units_le hy))
  · rw [if_neg h]
    exact code_le_infinite _

theorem div_code_le (hy : 0 < y.units) (hx : x.code ≤ x'.code) :
    (x.div y).code ≤ (x'.div y).code := by
  unfold div
  by_cases h : x'.isFinite = true
  · rw [if_pos h, if_pos (isFinite_of_le hx h)]
    exact round_code_le hy (units_le hx)
  · rw [if_neg h]
    exact code_le_infinite _

theorem nearestNat_le (h : x.code ≤ x'.code) : x.nearestNat ≤ x'.nearestNat :=
  Nat.div_le_div_right (by have := units_le h; omega)

theorem toNearest_code_le (h : x.code ≤ x'.code) : x.toNearest.code ≤ x'.toNearest.code := by
  unfold toNearest
  by_cases hfinite : x'.isFinite = true
  · rw [if_pos hfinite, if_pos (isFinite_of_le h hfinite)]
    exact ofNat_code_le (nearestNat_le h)
  · rw [if_neg hfinite]
    exact code_le_infinite _

theorem ofNat_isFinite {n : Nat} (h : n ≤ 2 ^ 64) : (ofNat n).isFinite = true :=
  isFinite_of_le (ofNat_code_le h) (by decide +kernel)

/-! ### Values that are not rounded -/

theorem roundCode_eq {n d c : Nat} (hd : 0 < d) (hlow : unitsOfCode c * d ≤ n)
    (hhigh : 2 * n < (unitsOfCode c + unitsOfCode (c + 1)) * d) : roundCode n d = c :=
  (isNearest_iff hd).mp (.of_le hd hlow hhigh.le fun _ => hhigh)

theorem roundCode_units (x : Magnitude) {d : Nat} (hd : 0 < d) :
    roundCode (x.units * d) d = x.code := by
  refine roundCode_eq hd le_rfl ?_
  have hlt := Nat.mul_lt_mul_of_pos_right (unitsOfCode_lt (Nat.lt_add_one x.code)) hd
  unfold units
  rw [Nat.add_mul]
  omega

theorem log2_mul_lt {n k : Nat} (hn : 0 < n) (h : n < 2 ^ k) (m : Nat) :
    Nat.log2 (n * 2 ^ m) < k + m := by
  have hpos : 0 < 2 ^ m := Nat.two_pow_pos m
  rw [Nat.log2_lt (Nat.mul_pos hn hpos).ne', pow_add]
  exact Nat.mul_lt_mul_of_pos_right h hpos

/-- Half the step of the codes from a half to one, 2⁻⁵⁴, in units. -/
def grain : Nat := Nat.pow 2 1020

theorem exists_grain_eq : ∃ m ≤ 1020, grain = Nat.pow 2 m := by decide +kernel

theorem unitsPerOne_eq : unitsPerOne = 2 ^ 54 * grain := by decide +kernel

theorem exists_unitsOfCode_eq {n : Nat} (h : n < 2 ^ 53) (m : Nat) :
    ∃ c, unitsOfCode c = n * Nat.pow 2 m := by
  rcases Nat.eq_zero_or_pos n with rfl | hpos
  · exact ⟨0, by rw [Nat.zero_mul]; rfl⟩
  have hcut := isCut (n * Nat.pow 2 m)
  refine ⟨_, hcut.unitsOfCode_eq.trans (Nat.div_mul_cancel ?_)⟩
  -- all bits that are cut off are zero
  rw [Nat.pow_eq]
  have hlog := log2_mul_lt hpos h m
  exact Nat.dvd_mul_left_of_dvd (Nat.pow_dvd_pow 2 (by omega)) n

theorem stepOfCode_le {c c' : Nat} (h : c ≤ c') : stepOfCode c ≤ stepOfCode c' :=
  Nat.pow_le_pow_right two_pos (Nat.sub_le_sub_right (Nat.div_le_div_right h) 1)

theorem units_ofNat_of_unitsOfCode {n c : Nat} (h : n ≤ 2 ^ 64)
    (hc : unitsOfCode c = n * unitsPerOne) : (ofNat n).units = n * unitsPerOne := by
  have hround : roundCode (n * unitsPerOne) 1 = c := by
    have hnext := unitsOfCode_lt (Nat.lt_add_one c)
    exact roundCode_eq one_pos (by omega) (by omega)
  have hfinite : min c topCode < topCode := by
    rw [← hround]
    exact of_decide_eq_true (ofNat_isFinite h)
  have hcode : (ofNat n).code = c := by
    rw [← min_eq_left (min_lt_iff.mp hfinite |>.resolve_right (lt_irrefl _)).le]
    rw [ofNat, round, hround]
    rfl
  rw [units, hcode, hc]

/-- **Whole numbers up to 2⁵³ are not rounded.** -/
theorem units_ofNat {n : Nat} (h : n ≤ 2 ^ 53) : (ofNat n).units = n * unitsPerOne := by
  obtain ⟨m, -, hm⟩ := exists_grain_eq
  obtain ⟨c, hc⟩ : ∃ c, unitsOfCode c = n * unitsPerOne := by
    rw [unitsPerOne_eq, hm, Nat.pow_eq, ← pow_add]
    rcases h.lt_or_eq with hlt | rfl
    · exact exists_unitsOfCode_eq hlt (54 + m)
    · -- a power of two has one significant bit
      obtain ⟨c, hc⟩ := exists_unitsOfCode_eq (show 1 < 2 ^ 53 by decide) (53 + (54 + m))
      exact ⟨c, by rw [hc, Nat.one_mul, Nat.pow_eq, pow_add]⟩
  exact units_ofNat_of_unitsOfCode (by omega) hc

theorem round_mul_mul (n : Nat) {d k : Nat} (hd : 0 < d) (hk : 0 < k) :
    round (n * k) (d * k) = round n d := by
  have hnearest := (isNearest_roundCode (n * unitsPerOne) hd).congr hd (Nat.mul_pos hd hk)
    (show n * unitsPerOne * (d * k) = n * k * unitsPerOne * d by ring)
  rw [round, round, (isNearest_iff (Nat.mul_pos hd hk)).mp hnearest]

theorem ofNat_div_ofNat {n d : Nat} (hn : n ≤ 2 ^ 53) (hd : d ≤ 2 ^ 53) (hpos : 0 < d) :
    (ofNat n).div (ofNat d) = round n d := by
  rw [div, if_pos (ofNat_isFinite (hn.trans (by decide))), units_ofNat hn, units_ofNat hd,
    round_mul_mul n hpos unitsPerOne_pos]

/-! ### The error of a rounding -/

theorem grains_lt {k : Nat} (h : k < 2 ^ 54) : k * grain < unitsPerOne := by
  have hpos : 0 < 2 ^ 54 * grain := unitsPerOne_eq ▸ unitsPerOne_pos
  rw [unitsPerOne_eq]
  exact Nat.mul_lt_mul_of_pos_right h (Nat.pos_of_mul_pos_left hpos)

/-- **Two numbers of units are close**: at most `k` grains apart. -/
def IsClose (k a b : Nat) : Prop := a ≤ b + k * grain ∧ b ≤ a + k * grain

namespace IsClose

variable {k l a b c d : Nat}

theorem trans (h : IsClose k a b) (h' : IsClose l b c) : IsClose (k + l) a c := by
  obtain ⟨h₁, h₂⟩ := h
  obtain ⟨h₁', h₂'⟩ := h'
  constructor <;> rw [Nat.add_mul] <;> omega

theorem add_left (h : IsClose k a b) (c : Nat) : IsClose k (c + a) (c + b) := by
  obtain ⟨h₁, h₂⟩ := h
  constructor <;> omega

theorem mul_right_iff (hd : 0 < d) : IsClose (k * d) (a * d) (b * d) ↔ IsClose k a b := by
  unfold IsClose
  rw [Nat.mul_right_comm, ← Nat.add_mul, ← Nat.add_mul, Nat.mul_le_mul_right_iff hd,
    Nat.mul_le_mul_right_iff hd]

end IsClose

/-- Below `2 ^ j` a step is no longer than `2 ^ (j + 1)` grains. -/
theorem stepOfCode_le_of_lt {c j : Nat} (h : unitsOfCode c < 2 ^ j * unitsPerOne) :
    stepOfCode c ≤ 2 * (2 ^ j * grain) := by
  obtain ⟨m, -, hm⟩ := exists_grain_eq
  rw [unitsPerOne_eq, hm, Nat.pow_eq, ← pow_add, ← pow_add] at h
  rw [hm, Nat.pow_eq, ← pow_add, ← Nat.pow_succ']
  by_cases hsmall : c < 2 ^ 53
  · exact Nat.pow_le_pow_right two_pos (by omega)
  -- the value of a code is 2⁵² of its steps at least
  unfold unitsOfCode at h
  simp only [Nat.pow_eq] at h
  rw [if_neg hsmall] at h
  have hlow := (Nat.mul_le_mul_right (2 ^ (c / 2 ^ 52 - 1))
    (Nat.le_add_right (2 ^ 52) (c % 2 ^ 52))).trans_lt h
  rw [← pow_add, Nat.pow_lt_pow_iff_right one_lt_two] at hlow
  exact Nat.pow_le_pow_right two_pos (by omega)

/-- **The error of a rounding**: a quotient below `2 ^ j` is moved by `2 ^ j` grains at most. -/
theorem isClose_roundCode {n d j : Nat} (hd : 0 < d) (h : n < 2 ^ j * unitsPerOne * d) :
    IsClose (2 ^ j * d) (unitsOfCode (roundCode n d) * d) n := by
  obtain ⟨c, hle, hlt, hround⟩ := exists_roundCode n hd
  have hstep := Nat.mul_le_mul_right d
    (stepOfCode_le_of_lt (lt_of_mul_lt_mul_right (hle.trans_lt h) (Nat.zero_le d)))
  rw [unitsOfCode_succ, Nat.add_mul] at hlt
  rw [unitsOfCode_succ, ← Nat.add_assoc, ← Nat.two_mul, Nat.add_mul, Nat.mul_assoc] at hround
  rw [Nat.mul_assoc 2, Nat.mul_right_comm] at hstep
  unfold IsClose
  rw [hround]
  split
  · constructor <;> omega
  · rw [unitsOfCode_succ, Nat.add_mul]
    constructor <;> omega

section Errors

variable {x y : Magnitude} {n d j k value : Nat}

theorem isClose_round (hd : 0 < d) (hj : j ≤ 53) (h : n < 2 ^ j * d) :
    IsClose (2 ^ j * d) ((round n d).units * d) (n * unitsPerOne) := by
  have hcode : (round n d).code = roundCode (n * unitsPerOne) d := by
    refine min_eq_left ?_
    calc roundCode (n * unitsPerOne) d
        ≤ roundCode ((ofNat (2 ^ 53)).units * d) d := roundCode_mono hd (by
          rw [units_ofNat le_rfl, Nat.mul_right_comm]
          exact Nat.mul_le_mul_right _
            (h.le.trans (Nat.mul_le_mul_right d (Nat.pow_le_pow_right two_pos hj))))
      _ = (ofNat (2 ^ 53)).code := roundCode_units _ hd
      _ ≤ topCode := (ofNat (2 ^ 53)).code_le
  rw [units, hcode]
  refine isClose_roundCode hd ?_
  rw [Nat.mul_right_comm]
  exact Nat.mul_lt_mul_of_pos_right h unitsPerOne_pos

theorem isFinite_of_units_lt (hj : j ≤ 53) (h : x.units < 2 ^ j * unitsPerOne) :
    x.isFinite = true := by
  refine isFinite_of_le ?_ (ofNat_isFinite (show 2 ^ 53 ≤ 2 ^ 64 by decide))
  by_contra hcode
  have hunits := unitsOfCode_lt (not_le.mp hcode)
  rw [← units, units_ofNat le_rfl] at hunits
  have hle : 2 ^ j * unitsPerOne ≤ 2 ^ 53 * unitsPerOne :=
    Nat.mul_le_mul_right _ (Nat.pow_le_pow_right two_pos hj)
  exact absurd (hunits.trans (h.trans_le hle)) (lt_irrefl _)

theorem isClose_add (hj : j ≤ 53) (h : x.units + y.units < 2 ^ j * unitsPerOne) :
    IsClose (2 ^ j) (x.add y).units (x.units + y.units) := by
  have hx := isFinite_of_units_lt hj ((Nat.le_add_right _ y.units).trans_lt h)
  have hy := isFinite_of_units_lt hj ((Nat.le_add_left _ x.units).trans_lt h)
  rw [add, if_pos (Bool.and_eq_true_iff.mpr ⟨hx, hy⟩)]
  exact (IsClose.mul_right_iff unitsPerOne_pos).mp (isClose_round unitsPerOne_pos hj h)

/-- The error of a product by a whole number is that of its exact value and that of a rounding. -/
theorem isClose_mul (hj : j ≤ 53) (hpos : 0 < n) (hn : n ≤ 2 ^ 53)
    (hx : IsClose k (x.units * n) value) (h : value + k * grain < 2 ^ j * unitsPerOne) :
    IsClose (2 ^ j + k) (x.mul (ofNat n)).units value := by
  have hone := unitsPerOne_pos
  have hsquare := Nat.mul_pos hone hone
  have hlt : x.units * n < 2 ^ j * unitsPerOne := hx.1.trans_lt h
  have hfinite := isFinite_of_units_lt hj ((Nat.le_mul_of_pos_right _ hpos).trans_lt hlt)
  refine IsClose.trans ((IsClose.mul_right_iff hsquare).mp ?_) hx
  rw [mul, if_pos (Bool.and_eq_true_iff.mpr ⟨hfinite, ofNat_isFinite (hn.trans (by decide))⟩),
    units_ofNat hn, ← Nat.mul_assoc x.units, ← Nat.mul_assoc (x.units * n)]
  refine isClose_round hsquare hj ?_
  rw [← Nat.mul_assoc]
  exact Nat.mul_lt_mul_of_pos_right hlt hone

theorem toNearest_eq (h : IsClose k x.units (n * unitsPerOne)) (hk : k < 2 ^ 53)
    (hn : n < 2 ^ 53) : x.toNearest = ofNat n := by
  have hhalf := grains_lt (show k * 2 < 2 ^ 54 by omega)
  have hle : (n + 1) * unitsPerOne ≤ 2 ^ 53 * unitsPerOne := Nat.mul_le_mul_right _ hn
  rw [Nat.mul_right_comm] at hhalf
  rw [Nat.add_one_mul n] at hle
  obtain ⟨hhigh, hlow⟩ := h
  have hfinite : x.isFinite = true := isFinite_of_units_lt le_rfl (by omega)
  have hnearest : x.nearestNat = n := by
    refine Nat.div_eq_of_lt_le ?_ ?_
    · rw [Nat.mul_left_comm]
      omega
    · rw [Nat.mul_left_comm, Nat.add_one_mul n]
      omega
  rw [toNearest, if_pos hfinite, hnearest]

end Errors

/-! ### Sums with a fraction -/

theorem code_le_add (x y : Magnitude) : x.code ≤ (x.add y).code := by
  unfold add
  split
  · rw [← roundCode_units x unitsPerOne_pos]
    have htop := (roundCode_units x unitsPerOne_pos).trans_le x.code_le
    refine le_min (roundCode_mono unitsPerOne_pos ?_) htop
    exact Nat.mul_le_mul_right _ (Nat.le_add_right _ _)
  · exact code_le_infinite x

variable {f : Magnitude}

theorem units_lt_of_code_lt_one (hf : f.code < one.code) : f.units < unitsPerOne := by
  have hone := units_ofNat (show 1 ≤ 2 ^ 53 by decide)
  rw [Nat.one_mul] at hone
  exact (unitsOfCode_lt hf).trans_eq hone

theorem isFinite_of_code_lt_one (hf : f.code < one.code) : f.isFinite = true :=
  isFinite_of_le hf.le (ofNat_isFinite (by decide))

/-- From 2⁵³ on a fraction makes no difference. -/
theorem add_fraction_code {n : Nat} (hn : 2 ^ 53 ≤ n) (hf : f.code < one.code) :
    ((ofNat n).add f).code ≤ (ofNat n).code := by
  have hstep : 2 * unitsPerOne ≤ stepOfCode (ofNat n).code := by
    refine le_trans ?_ (stepOfCode_le (ofNat_code_le hn))
    decide +kernel
  have hunits := units_lt_of_code_lt_one hf
  unfold add
  by_cases hfinite : (ofNat n).isFinite = true
  · have hboth : ((ofNat n).isFinite && f.isFinite) = true :=
      Bool.and_eq_true_iff.mpr ⟨hfinite, isFinite_of_code_lt_one hf⟩
    rw [if_pos hboth]
    refine (min_le_left _ _).trans_eq (roundCode_eq unitsPerOne_pos ?_ ?_)
    · exact Nat.mul_le_mul_right _ (Nat.le_add_right _ _)
    · rw [unitsOfCode_succ, ← Nat.mul_assoc]
      refine Nat.mul_lt_mul_of_pos_right ?_ unitsPerOne_pos
      rw [units]
      omega
  · have htop : topCode ≤ (ofNat n).code := by simpa [isFinite] using hfinite
    exact (code_le_infinite _).trans htop

/-- **A whole number and a fraction** are no more than the next whole number. -/
theorem add_fraction_code_le (n : Nat) (hf : f.code < one.code) :
    ((ofNat n).add f).code ≤ (ofNat (n + 1)).code := by
  rcases Nat.lt_or_ge n (2 ^ 53) with hn | hn
  · have hunits := units_lt_of_code_lt_one hf
    have hboth : ((ofNat n).isFinite && f.isFinite) = true :=
      Bool.and_eq_true_iff.mpr ⟨ofNat_isFinite (by omega), isFinite_of_code_lt_one hf⟩
    unfold add
    rw [if_pos hboth, ← roundCode_units (ofNat (n + 1)) unitsPerOne_pos, units_ofNat hn,
      units_ofNat hn.le, Nat.add_one_mul]
    refine (min_le_left _ _).trans (roundCode_mono unitsPerOne_pos (Nat.mul_le_mul_right _ ?_))
    omega
  · exact (add_fraction_code hn hf).trans (ofNat_code_le (Nat.le_succ n))

end Magnitude

end QueryBatch
