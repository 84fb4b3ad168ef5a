import Mathlib.Data.List.TakeWhile
import QueryBatch.Number.Numeral
import QueryBatch.Proofs.Characters
import QueryBatch.Proofs.Rounding

/-! # Reading numerals

A numeral is digits with a point, a sign or an exponent, and it stands for a decimal. The number
that is read is the one nearest to that decimal, whatever its length: for decimals far out the
reader looks at the place of the leading digit only, and what it tells from there is what rounding
would tell.

* `Decimal.toMagnitude_eq_round`: **the number that a decimal is read as**.
* `Numeral.Literal`: unsigned literals, with their characters and the decimal that they stand for.
* `Numeral.Literal.unsigned?_chars`: **literals are read as the number nearest to their decimal**.
* `Numeral.count?_of_isDigits`, `Numeral.real?_of_isDigits`: the two readings of digits.
-/

namespace QueryBatch

/-! ### Decimals far out -/

namespace Magnitude

theorem eq_of_code {x y : Magnitude} (h : x.code = y.code) : x = y := by
  cases x
  cases y
  cases h
  rfl

variable {n d p : Nat}

theorem round_of_large (hd : 0 < d) (hp : unitsOfCode topCode < p * unitsPerOne) (h : p * d ≤ n) :
    round n d = infinite := by
  refine eq_of_code (le_antisymm (code_le_infinite _) (le_min ?_ le_rfl))
  by_contra hle
  have hlt : roundCode (n * unitsPerOne) d < topCode := not_le.mp hle
  have hbracket := le_roundCode (n * unitsPerOne) hd
  have hnext : unitsOfCode (roundCode (n * unitsPerOne) d + 1) ≤ unitsOfCode topCode :=
    unitsOfCode_le hlt
  have hsum := Nat.mul_le_mul_right d (Nat.add_le_add (unitsOfCode_le hlt.le) hnext)
  have hlimit := Nat.mul_lt_mul_of_pos_right hp hd
  have hle := Nat.mul_le_mul_right unitsPerOne h
  rw [Nat.mul_right_comm] at hle
  rw [← Nat.two_mul, Nat.mul_assoc] at hsum
  omega

theorem round_of_small (hp : 2 * unitsPerOne ≤ p) (h : n * p < d) : round n d = zero := by
  have hcode : roundCode (n * unitsPerOne) d = 0 := by
    by_contra hne
    have hbracket := roundCode_le (n * unitsPerOne) (Nat.zero_lt_of_lt h) (Nat.pos_of_ne_zero hne)
    have hunit : unitsOfCode 0 + unitsOfCode (0 + 1) = 1 := by decide
    have hle := Nat.mul_le_mul_left n hp
    rw [hunit] at hbracket
    rw [Nat.mul_left_comm] at hle
    omega
  refine eq_of_code ?_
  rw [round, hcode]
  rfl

end Magnitude

namespace Decimal

theorem pow_leadingPlace_le {n : Nat} (hn : n ≠ 0) : 10 ^ leadingPlace n ≤ n := by
  fun_induction leadingPlace n with
  | case1 n h => omega
  | case2 n h ih =>
    have hle := ih (by omega)
    rw [pow_succ]
    omega

theorem lt_pow_leadingPlace (n : Nat) : n < 10 ^ (leadingPlace n + 1) := by
  fun_induction leadingPlace n with
  | case1 n h => omega
  | case2 n h ih =>
    rw [pow_succ]
    omega

theorem scale_snd_pos (e : Int) : 0 < (scale e).2 := Nat.pow_pos (by decide)

theorem exists_beyond : ∃ k ≤ 310,
    Magnitude.unitsOfCode Magnitude.topCode < 10 ^ k * Magnitude.unitsPerOne :=
  ⟨310, le_rfl, by decide +kernel⟩

theorem exists_below : ∃ k ≤ 329, 2 * Magnitude.unitsPerOne ≤ 10 ^ k :=
  ⟨329, le_rfl, by decide +kernel⟩

/-- **A decimal is read as the number nearest to it.** What is told from the place of its leading
digit alone is told rightly. -/
theorem toMagnitude_eq_round (d : Decimal) :
    d.toMagnitude = .round (d.significand * (scale d.exponent).1) (scale d.exponent).2 := by
  have hten : 0 < 10 := by decide
  obtain ⟨large, hlarge, hbeyond⟩ := exists_beyond
  obtain ⟨small, hsmall, hbelow⟩ := exists_below
  unfold toMagnitude
  split
  · next hzero =>
    rw [hzero, Nat.zero_mul]
    refine (Magnitude.round_of_small le_rfl ?_).symm
    rw [Nat.zero_mul]
    exact scale_snd_pos _
  · next hne =>
    rw [place]
    split
    · next hplace =>
      -- no decimal is below the power of ten at its leading place
      refine (Magnitude.round_of_large (scale_snd_pos _) hbeyond ?_).symm
      calc 10 ^ large * 10 ^ (-d.exponent).toNat
          = 10 ^ (large + (-d.exponent).toNat) := (pow_add 10 _ _).symm
        _ ≤ 10 ^ (leadingPlace d.significand + d.exponent.toNat) :=
          Nat.pow_le_pow_right hten (by omega)
        _ = 10 ^ leadingPlace d.significand * 10 ^ d.exponent.toNat := pow_add 10 _ _
        _ ≤ d.significand * 10 ^ d.exponent.toNat :=
          Nat.mul_le_mul_right _ (pow_leadingPlace_le hne)
    · split
      · next hplace =>
        -- nor does it reach the power of ten one place further up
        refine (Magnitude.round_of_small hbelow ?_).symm
        calc d.significand * 10 ^ d.exponent.toNat * 10 ^ small
            < 10 ^ (leadingPlace d.significand + 1) * 10 ^ d.exponent.toNat * 10 ^ small :=
              Nat.mul_lt_mul_of_pos_right (Nat.mul_lt_mul_of_pos_right (lt_pow_leadingPlace _)
                (Nat.pow_pos hten)) (Nat.pow_pos hten)
          _ = 10 ^ (leadingPlace d.significand + 1 + d.exponent.toNat + small) := by
              rw [pow_add 10 _ small, pow_add 10 _ d.exponent.toNat]
          _ ≤ 10 ^ (-d.exponent).toNat := Nat.pow_le_pow_right hten (by omega)
      · rfl

theorem toMagnitude_whole (n : Nat) : (⟨n, 0⟩ : Decimal).toMagnitude = .ofNat n := by
  rw [toMagnitude_eq_round, Magnitude.ofNat]
  simp [scale]

end Decimal

/-! ### Literals -/

namespace Text

variable {p : Char → Bool} {body rest : List Char}

theorem takeWhile_append_of_head (hbody : ∀ c ∈ body, p c = true)
    (hrest : ∀ c ∈ rest.head?, p c = false) : (body ++ rest).takeWhile p = body := by
  rw [List.takeWhile_append_of_pos hbody]
  cases rest with
  | nil => simp
  | cons c r => simp [hrest c rfl]

theorem dropWhile_append_of_head (hbody : ∀ c ∈ body, p c = true)
    (hrest : ∀ c ∈ rest.head?, p c = false) : (body ++ rest).dropWhile p = rest := by
  rw [List.dropWhile_append_of_pos hbody]
  cases rest with
  | nil => rfl
  | cons c r => simp [hrest c rfl]

end Text

namespace Numeral

theorem isDigits_iff {cs : List Char} :
    isDigits cs = true ↔ cs ≠ [] ∧ ∀ c ∈ cs, c.isDigit = true := by
  simp [isDigits]

theorem isDigits_toDigits (n : Nat) : isDigits (Nat.toDigits 10 n) = true :=
  isDigits_iff.mpr ⟨Nat.toDigits_ne_nil, fun _ hc =>
    Nat.isDigit_of_mem_toDigits (by decide) (by decide) hc⟩

theorem isDigits_append {cs cs' : List Char} (h : ∀ c ∈ cs, c.isDigit = true)
    (h' : ∀ c ∈ cs', c.isDigit = true) (hne : cs ++ cs' ≠ []) : isDigits (cs ++ cs') = true :=
  isDigits_iff.mpr ⟨hne, fun c hc => (List.mem_append.mp hc).elim (h c) (h' c)⟩

theorem value_toDigits (n : Nat) : value (Nat.toDigits 10 n) = n := Nat.ofDigitChars_ten_toDigits

theorem toLower_of_isDigit {c : Char} (h : c.isDigit = true) : c.toLower = c := by
  refine toLower_eq_self_iff.mpr (Bool.eq_false_iff.mpr fun hupper => ?_)
  simp only [Char.isDigit, Bool.and_eq_true, decide_eq_true_eq] at h
  have hhigh : c.toNat ≤ 57 := h.2
  have hlow : 65 ≤ c.toNat := (of_decide_eq_true hupper).1
  omega

theorem real?_cons_of_isDigit {c : Char} {r : List Char} (h : c.isDigit = true) :
    real? (c :: r) = unsigned? (c :: r) := by
  unfold real?
  split
  · next heq =>
    cases heq
    exact absurd h (by decide)
  · next heq =>
    cases heq
    exact absurd h (by decide)
  · rfl

/-- **Unsigned literals**: digits, a point with digits behind it or no fraction, and an exponent or
none. -/
structure Literal where
  whole : List Char
  fraction : List Char
  exponent : Option Int
  /-- An exponent that is not below zero has a plus sign. -/
  signsExponent : Bool
  whole_ne_nil : whole ≠ []
  isDigit_whole : ∀ c ∈ whole, c.isDigit = true
  isDigit_fraction : ∀ c ∈ fraction, c.isDigit = true

namespace Literal

/-- The characters of a fraction; without digits there is no point. -/
def fractionChars (fraction : List Char) : List Char :=
  if fraction.isEmpty then [] else '.' :: fraction

def exponentChars (signed : Bool) : Option Int → List Char
  | none => []
  | some e => 'e' :: ((if signed && 0 ≤ e then ['+'] else []) ++ (toString e).toList)

variable (l : Literal)

def chars : List Char :=
  l.whole ++ fractionChars l.fraction ++ exponentChars l.signsExponent l.exponent

/-- The digits on both sides of the point. -/
def digits : List Char := l.whole ++ l.fraction

/-- The decimal that a literal stands for. -/
def decimal : Decimal := ⟨value l.digits, l.exponent.getD 0 - l.fraction.length⟩

theorem isDigits_digits : isDigits l.digits = true :=
  isDigits_append l.isDigit_whole l.isDigit_fraction
    (List.append_ne_nil_of_left_ne_nil l.whole_ne_nil _)

theorem exponent?_digits {cs : List Char} (h : isDigits cs = true) :
    exponent? ('e' :: cs) = some (value cs : Int) := by
  have hdigit := (isDigits_iff.mp h).2
  unfold exponent?
  split
  · next heq => cases heq
  · next heq =>
    rw [(List.cons.inj heq).2] at hdigit
    exact absurd (hdigit '-' List.mem_cons_self) (by decide)
  · next heq =>
    rw [(List.cons.inj heq).2] at hdigit
    exact absurd (hdigit '+' List.mem_cons_self) (by decide)
  · next heq => rw [← (List.cons.inj heq).2, if_pos h]

theorem exponent?_exponentChars (signed : Bool) (e : Option Int) :
    exponent? (exponentChars signed e) = some (e.getD 0) := by
  cases e with
  | none => rfl
  | some e =>
    cases e with
    | ofNat n =>
      have hvalue : some (value (Nat.toDigits 10 n) : Int) =
          some ((some (Int.ofNat n)).getD 0) := by
        rw [value_toDigits]
        rfl
      rw [exponentChars, toList_toString_ofNat, ← hvalue]
      cases signed with
      | false => exact exponent?_digits (isDigits_toDigits n)
      | true => exact if_pos (isDigits_toDigits n)
    | negSucc n =>
      have hplus : (signed && decide (0 ≤ Int.negSucc n)) = false := by simp
      rw [exponentChars, toList_toString_negSucc, hplus, if_neg Bool.false_ne_true,
        List.nil_append, exponent?, if_pos (isDigits_toDigits _), value_toDigits]
      rfl

theorem isDigit_or_point {c : Char} (h : c ∈ l.whole ++ fractionChars l.fraction) :
    c.isDigit = true ∨ c = '.' := by
  rcases List.mem_append.mp h with h | h
  · exact .inl (l.isDigit_whole c h)
  · unfold fractionChars at h
    split at h
    · cases h
    · exact (List.mem_cons.mp h).symm.imp (l.isDigit_fraction c) id

theorem exists_chars_eq : ∃ c r, l.chars = c :: r ∧ c.isDigit = true := by
  obtain ⟨c, r, hw⟩ := List.exists_cons_of_ne_nil l.whole_ne_nil
  refine ⟨c, r ++ fractionChars l.fraction ++ exponentChars l.signsExponent l.exponent, ?_,
    l.isDigit_whole c (hw ▸ List.mem_cons_self)⟩
  rw [chars, hw, List.cons_append, List.cons_append]

theorem isNumeral_of_mem_chars {c : Char} (h : c ∈ l.chars) : isNumeral c = true := by
  rcases List.mem_append.mp h with h | h
  · rcases l.isDigit_or_point h with h | rfl
    · simp [isNumeral, h]
    · decide
  · cases he : l.exponent with
    | none =>
      rw [he] at h
      cases h
    | some e =>
      rw [he, exponentChars] at h
      rcases List.mem_cons.mp h with rfl | h
      · decide
      rcases List.mem_append.mp h with h | h
      · split at h
        · rw [List.mem_singleton.mp h]
          decide
        · cases h
      · exact within_toString_int e c h

/-- **A literal is read as the decimal that it stands for.** -/
theorem decimal?_chars : decimal? l.chars = some l.decimal := by
  have hmantissa : ∀ c ∈ l.whole ++ fractionChars l.fraction,
      (!(c == 'e' || c == 'E')) = true := by
    intro c hc
    have hc := l.isDigit_or_point hc
    rw [Bool.not_eq_true', Bool.or_eq_false_iff, beq_eq_false_iff_ne, beq_eq_false_iff_ne]
    constructor <;> rintro rfl <;> exact absurd hc (by decide)
  have hexponent : ∀ c ∈ (exponentChars l.signsExponent l.exponent).head?,
      (!(c == 'e' || c == 'E')) = false := by
    cases l.exponent <;> simp [exponentChars]
  have hwhole : ∀ c ∈ l.whole, (c != '.') = true := by
    intro c hc
    rw [bne_iff_ne]
    rintro rfl
    exact absurd (l.isDigit_whole _ hc) (by decide)
  have hpoint : ∀ c ∈ (fractionChars l.fraction).head?, (c != '.') = false := by
    cases l.fraction <;> simp [fractionChars]
  have hfraction : (fractionChars l.fraction).drop 1 = l.fraction := by
    cases l.fraction <;> rfl
  unfold decimal? chars
  simp only [Text.takeWhile_append_of_head hmantissa hexponent,
    Text.dropWhile_append_of_head hmantissa hexponent,
    Text.takeWhile_append_of_head hwhole hpoint, Text.dropWhile_append_of_head hwhole hpoint,
    hfraction, exponent?_exponentChars, Option.map_some]
  exact if_pos l.isDigits_digits

/-- **A literal is read as the number that is nearest to its decimal.** -/
theorem unsigned?_chars : unsigned? l.chars = some (.real false l.decimal.toMagnitude) := by
  -- the names of infinity and of what is no number do not begin with a digit
  have hname : ∀ name : List Char, name.head?.all Char.isDigit = false →
      l.chars.map Char.toLower ≠ name := by
    rintro _ hall rfl
    obtain ⟨c, r, hchars, hc⟩ := l.exists_chars_eq
    rw [hchars] at hall
    simp [toLower_of_isDigit hc, hc] at hall
  unfold unsigned?
  simp only [if_neg (not_or.mpr ⟨hname ['i', 'n', 'f'] (by decide),
    hname ['i', 'n', 'f', 'i', 'n', 'i', 't', 'y'] (by decide)⟩),
    if_neg (hname ['n', 'a', 'n'] (by decide)), decimal?_chars, Option.map_some]

theorem real?_chars : real? l.chars = some (.real false l.decimal.toMagnitude) := by
  obtain ⟨c, r, hchars, hc⟩ := l.exists_chars_eq
  rw [← l.unsigned?_chars, hchars, real?_cons_of_isDigit hc]

/-- Digits with a point behind the first `n` of them; behind all of them there is none. -/
def pointed (cs : List Char) (n : Nat) (exponent : Option Int) (signsExponent : Bool)
    (hcs : isDigits cs = true) (hn : 0 < n) : Literal where
  whole := cs.take n
  fraction := cs.drop n
  exponent := exponent
  signsExponent := signsExponent
  whole_ne_nil := by simpa [hn.ne'] using (isDigits_iff.mp hcs).1
  isDigit_whole _ hc := (isDigits_iff.mp hcs).2 _ (List.mem_of_mem_take hc)
  isDigit_fraction _ hc := (isDigits_iff.mp hcs).2 _ (List.mem_of_mem_drop hc)

theorem decimal_pointed {cs : List Char} {n : Nat} {exponent : Option Int} {signsExponent : Bool}
    (hcs : isDigits cs = true) (hn : 0 < n) :
    (pointed cs n exponent signsExponent hcs hn).decimal =
      ⟨value cs, exponent.getD 0 - (cs.length - n : Nat)⟩ := by
  rw [decimal, digits, pointed, List.take_append_drop, List.length_drop]

end Literal

/-! ### Digits -/

section

variable {cs : List Char}

theorem count?_of_isDigits (h : isDigits cs = true) (limit : Nat) :
    count? limit cs = if value cs ≤ limit then some (value cs) else none := by
  unfold count?
  split
  · exact absurd ((isDigits_iff.mp h).2 '+' List.mem_cons_self) (by decide)
  · simp [h]

theorem count?_plus (h : isDigits cs = true) (limit : Nat) :
    count? limit ('+' :: cs) = if value cs ≤ limit then some (value cs) else none := by
  simp [count?, h]

theorem count?_minus (limit : Nat) : count? limit ('-' :: cs) = none := by
  have h : isDigits ('-' :: cs) = false := by
    rw [Bool.eq_false_iff]
    exact fun h => absurd ((isDigits_iff.mp h).2 '-' List.mem_cons_self) (by decide)
  simp [count?, h]

/-- **Digits are read as the number nearest to theirs.** -/
theorem unsigned?_of_isDigits (h : isDigits cs = true) :
    unsigned? cs = some (.ofNat (value cs)) := by
  have hpos : 0 < cs.length := List.length_pos_iff.mpr (isDigits_iff.mp h).1
  let l := Literal.pointed cs cs.length none false h hpos
  have hchars : l.chars = cs := by
    simp [l, Literal.pointed, Literal.chars, Literal.fractionChars, Literal.exponentChars]
  have hdecimal : l.decimal = ⟨value cs, 0⟩ := by simp [l, Literal.decimal_pointed]
  have hread := l.unsigned?_chars
  rw [hchars, hdecimal, Decimal.toMagnitude_whole] at hread
  exact hread

theorem real?_of_isDigits (h : isDigits cs = true) :
    real? cs = some (.ofNat (value cs)) := by
  obtain ⟨hne, hdigit⟩ := isDigits_iff.mp h
  obtain ⟨c, r, rfl⟩ := List.exists_cons_of_ne_nil hne
  rw [real?_cons_of_isDigit (hdigit c List.mem_cons_self), unsigned?_of_isDigits h]

theorem real?_plus (h : isDigits cs = true) :
    real? ('+' :: cs) = some (.ofNat (value cs)) := unsigned?_of_isDigits h

theorem real?_minus (h : isDigits cs = true) :
    real? ('-' :: cs) = some (opposite (.ofNat (value cs))) := by
  rw [real?, unsigned?_of_isDigits h, Option.map_some]

end

end Numeral

end QueryBatch
