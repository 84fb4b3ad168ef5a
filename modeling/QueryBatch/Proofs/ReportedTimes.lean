import QueryBatch.Duration
import QueryBatch.Proofs.Rounding

/-! # The times that are told

A time is told in milliseconds with two decimals. On its way from the clock to the answer it is cut
into whole seconds and a fraction, added up again, scaled to milliseconds and then to hundredths,
taken to the nearest whole number and divided again, and each of these steps is rounded. None of
them turns the order of two times round. For whole milliseconds the errors of the steps before the
nearest whole number is taken add up to less than a half, so this step takes them all away.

* `Duration.reported`: the milliseconds that are told.
* `Duration.reported_le`: **they keep the order** of the measured ones.
* `Duration.reported_eq_ofNat`: **they are the measured ones** below 2⁴⁴ milliseconds.
-/

namespace QueryBatch

namespace Duration

/-- The seconds of some nanoseconds: the whole seconds and a fraction. -/
def seconds (nanos : Nat) : Magnitude :=
  (Magnitude.ofNat (nanos / Nat.pow 10 9)).add
    (.round (nanos % Nat.pow 10 9) (Nat.pow 10 9))

theorem fraction_code_lt (nanos : Nat) :
    (Magnitude.round (nanos % Nat.pow 10 9) (Nat.pow 10 9)).code < Magnitude.one.code := by
  have hpos : 0 < Nat.pow 10 9 := by decide
  refine (Magnitude.round_code_le hpos (Nat.le_sub_one_of_lt (Nat.mod_lt nanos hpos))).trans_lt ?_
  decide +kernel

/-- **Longer durations have no fewer seconds**, though the whole seconds and the fraction are each
rounded. -/
theorem seconds_code_le {n n' : Nat} (h : n ≤ n') : (seconds n).code ≤ (seconds n').code := by
  have hpos : 0 < Nat.pow 10 9 := by decide
  rcases (Nat.div_le_div_right h : n / Nat.pow 10 9 ≤ n' / Nat.pow 10 9).lt_or_eq with hlt | heq
  · calc (seconds n).code ≤ (Magnitude.ofNat (n / Nat.pow 10 9 + 1)).code :=
          Magnitude.add_fraction_code_le _ (fraction_code_lt n)
      _ ≤ (Magnitude.ofNat (n' / Nat.pow 10 9)).code := Magnitude.ofNat_code_le hlt
      _ ≤ (seconds n').code := Magnitude.code_le_add _ _
  · have hmod : n % Nat.pow 10 9 ≤ n' % Nat.pow 10 9 := by
      have hn := Nat.div_add_mod n (Nat.pow 10 9)
      have hn' := Nat.div_add_mod n' (Nat.pow 10 9)
      rw [heq] at hn
      omega
    exact Magnitude.add_code_le (Magnitude.ofNat_code_le heq.le)
      (Magnitude.round_code_le hpos hmod)

theorem seconds_millis (n : Nat) : seconds (n * Nat.pow 10 6) =
    (Magnitude.ofNat (n / 1000)).add (.round (n % 1000) 1000) := by
  have hpos : 0 < Nat.pow 10 6 := by decide
  unfold seconds
  rw [show Nat.pow 10 9 = 1000 * Nat.pow 10 6 from rfl, Nat.mul_div_mul_right _ _ hpos,
    Nat.mul_mod_mul_right, Magnitude.round_mul_mul _ (by decide) hpos]

/-- **The time of some milliseconds** as it stands in an answer. -/
def reported (millis : Nat) : Binary64 := (ofMillis millis).inMillis.hundredths

def reportedMagnitude (millis : Nat) : Magnitude :=
  ((((seconds (millis * Nat.pow 10 6)).mul (.ofNat 1000)).mul (.ofNat 100)).toNearest).div
    (.ofNat 100)

theorem inMillis_eq (d : Duration) :
    d.inMillis = .real false ((seconds d.nanos).mul (.ofNat 1000)) := by
  rw [inMillis, seconds]

theorem reported_eq (millis : Nat) :
    reported millis = .real false (reportedMagnitude millis) := by
  rw [reported, inMillis_eq, Binary64.hundredths, Binary64.mapMagnitude, reportedMagnitude,
    ofMillis]

theorem reportedMagnitude_code_le {m n : Nat} (h : m ≤ n) :
    (reportedMagnitude m).code ≤ (reportedMagnitude n).code := by
  have hhundred : 0 < (Magnitude.ofNat 100).units := by
    rw [Magnitude.units_ofNat (by decide)]
    exact Nat.mul_pos (by decide) Magnitude.unitsPerOne_pos
  exact Magnitude.div_code_le hhundred (Magnitude.toNearest_code_le
    (Magnitude.mul_code_le (Magnitude.mul_code_le
      (seconds_code_le (Nat.mul_le_mul_right _ h)) le_rfl) le_rfl))

/-- **Longer times are reported as no shorter ones.** -/
theorem reported_le {m n : Nat} (h : m ≤ n) : (reported m).le (reported n) = true := by
  rw [reported_eq, reported_eq]
  exact decide_eq_true (Int.ofNat_le.mpr (reportedMagnitude_code_le h))

/-! ### Times that are told as they are -/

section Exact

open Magnitude (IsClose grains_lt unitsPerOne)

variable {n : Nat}

theorem isClose_seconds (h : n < 2 ^ 44) :
    IsClose (2 ^ 35 * 1000 + 1000) ((seconds (n * Nat.pow 10 6)).units * 1000)
      (n * unitsPerOne) := by
  have hwhole : (Magnitude.ofNat (n / 1000)).units = n / 1000 * unitsPerOne :=
    Magnitude.units_ofNat (by omega)
  have hfraction := Magnitude.isClose_round (d := 1000) (j := 0) (by decide) (by decide)
    (show n % 1000 < 2 ^ 0 * 1000 by omega)
  have hless : (Magnitude.round (n % 1000) 1000).units < unitsPerOne := by
    have hgrains := grains_lt (show 2 ^ 0 * 1000 < 2 ^ 54 by decide)
    have hle : (n % 1000 + 1) * unitsPerOne ≤ 1000 * unitsPerOne :=
      Nat.mul_le_mul_right _ (by omega)
    rw [Nat.add_one_mul (n % 1000)] at hle
    have hhigh := hfraction.1
    omega
  have hsum := Magnitude.isClose_add (x := .ofNat (n / 1000)) (j := 35) (by decide) (by
    calc (Magnitude.ofNat (n / 1000)).units + (Magnitude.round (n % 1000) 1000).units
        < n / 1000 * unitsPerOne + unitsPerOne := by
          rw [hwhole]
          exact Nat.add_lt_add_left hless _
      _ = (n / 1000 + 1) * unitsPerOne := (Nat.add_one_mul _ _).symm
      _ ≤ 2 ^ 35 * unitsPerOne := Nat.mul_le_mul_right _ (by omega))
  rw [← seconds_millis, hwhole] at hsum
  have htotal : n / 1000 * unitsPerOne * 1000 + n % 1000 * unitsPerOne = n * unitsPerOne := by
    rw [Nat.mul_right_comm, ← Nat.add_mul, Nat.div_add_mod']
  rw [← htotal]
  refine ((IsClose.mul_right_iff (show 0 < 1000 by decide)).mpr hsum).trans ?_
  rw [Nat.add_mul]
  exact hfraction.add_left _

/-- All errors together are less than half a hundredth. -/
theorem reportedMagnitude_eq (h : n < 2 ^ 44) : reportedMagnitude n = .ofNat n := by
  have hle : n * unitsPerOne + unitsPerOne ≤ 2 ^ 44 * unitsPerOne := by
    rw [← Nat.add_one_mul n]
    exact Nat.mul_le_mul_right _ h
  have hmillis := Magnitude.isClose_mul (j := 44) (by decide) (by decide) (by decide)
    (isClose_seconds h) (by
      have hgrains := grains_lt (show 2 ^ 35 * 1000 + 1000 < 2 ^ 54 by decide)
      omega)
  have hhundredths := Magnitude.isClose_mul (j := 51) (by decide) (by decide) (by decide)
    ((IsClose.mul_right_iff (show 0 < 100 by decide)).mpr hmillis) (by
      have hgrains :=
        grains_lt (show (2 ^ 44 + (2 ^ 35 * 1000 + 1000)) * 100 < 2 ^ 54 by decide)
      omega)
  rw [Nat.mul_right_comm] at hhundredths
  unfold reportedMagnitude
  rw [Magnitude.toNearest_eq hhundredths (by decide) (by omega),
    Magnitude.ofNat_div_ofNat (by omega) (by decide) (by decide), Magnitude.ofNat,
    ← Magnitude.round_mul_mul n one_pos (show 0 < 100 by decide), Nat.one_mul]

/-- **Times below 2⁴⁴ milliseconds are told as they are**, though each step on their way is
rounded. -/
theorem reported_eq_ofNat (h : n < 2 ^ 44) : reported n = .ofNat n := by
  rw [reported_eq, reportedMagnitude_eq h, Binary64.ofNat]

end Exact

theorem one_le_reported {n : Nat} (h : 1 ≤ n) : Binary64.one.le (reported n) = true := by
  have hone : reported 1 = .one := reported_eq_ofNat (by decide)
  rw [← hone]
  exact reported_le h

theorem isFinite_reported {n : Nat} (h : n ≤ 2 ^ 64) : (reported n).isFinite = true := by
  rw [reported_eq]
  exact Magnitude.isFinite_of_le (reportedMagnitude_code_le h) (by decide +kernel)

end Duration

end QueryBatch
