import QueryBatch.Proofs.Numerals
import QueryBatch.Response.Count

/-! # Counts as numbers and as text

A count that comes as text is trimmed and read as digits. What 64 bits do not hold, and what is
below zero, is read a second time, as a binary64 number, and this reading rounds. Nothing of it is
seen in the count: rounding keeps the order, and the first number beyond the limit of counts is a
number of the format, so nothing from there on is rounded to less.

* `Text.trimChars_padded`: blanks around a text.
* `Magnitude.maxUnsigned_le_floor`: **rounding brings no number back below the limit of counts**.
* `Count.Spelling`: **whole numbers as text**; `Count.ofText_text`: what they count as.
* `Count.parse_text_and_number`: **a count is the same as a number and as text**.
-/

namespace QueryBatch

/-! ### Text without its blanks -/

namespace Text

theorem isBlank_of_isDigit {c : Char} (h : c.isDigit = true) : isBlank c = false := by
  simp only [Char.isDigit, Bool.and_eq_true, decide_eq_true_eq] at h
  have hlow : 48 ≤ c.toNat := h.1
  have hhigh : c.toNat ≤ 57 := h.2
  simp only [isBlank, blankRanges, List.any_cons, List.any_nil, Bool.or_false,
    Bool.or_eq_false_iff, Bool.and_eq_false_iff, decide_eq_false_iff_not]
  omega

theorem trimChars_padded {before cs after : List Char} (hbefore : ∀ c ∈ before, isBlank c = true)
    (hcs : ∀ c ∈ cs, isBlank c = false) (hafter : ∀ c ∈ after, isBlank c = true) :
    trimChars (before ++ cs ++ after) = cs := by
  rw [trimChars, List.append_assoc, List.dropWhile_append_of_pos hbefore]
  cases cs with
  | nil =>
    rw [List.nil_append, List.dropWhile_eq_nil_iff.mpr hafter]
    rfl
  | cons c r =>
    have hlast : (c :: r).reverse.dropWhile isBlank = (c :: r).reverse := by
      refine List.dropWhile_eq_self_iff.mpr fun hl => ?_
      exact Bool.eq_false_iff.mp (hcs _ (List.mem_reverse.mp (List.getElem_mem hl)))
    rw [List.cons_append, List.dropWhile_cons_of_neg (by simp [hcs c List.mem_cons_self]),
      ← List.cons_append, List.reverse_append,
      List.dropWhile_append_of_pos fun c hc => hafter c (List.mem_reverse.mp hc), hlast,
      List.reverse_reverse]

end Text

/-! ### Numbers beyond the limit -/

theorem Magnitude.floor_le {x y : Magnitude} (h : x.code ≤ y.code) : x.floor ≤ y.floor :=
  Nat.div_le_div_right (units_le h)

/-- **Rounding brings no number back below the limit of counts**, since 2⁶⁴ is not rounded. -/
theorem Magnitude.maxUnsigned_le_floor {n : Nat} (h : 2 ^ 64 ≤ n) :
    Json.maxUnsigned ≤ (ofNat n).floor := by
  have hlimit : Json.maxUnsigned ≤ (ofNat (2 ^ 64)).floor := by decide +kernel
  exact hlimit.trans (floor_le (ofNat_code_le h))

namespace Binary64

theorem saturate_ofNat (limit n : Nat) :
    (ofNat n).saturate limit = min (Magnitude.ofNat n).floor limit := by
  rw [ofNat, saturate, if_neg Bool.false_ne_true]

theorem saturate_opposite (limit n : Nat) : (Numeral.opposite (ofNat n)).saturate limit = 0 := by
  rw [ofNat, Numeral.opposite, saturate, Bool.not_false, if_pos rfl]

end Binary64

/-! ### Whole numbers as text -/

namespace Count

inductive Sign
  | absent
  | plus
  | minus
deriving DecidableEq

def Sign.chars : Sign → List Char
  | absent => []
  | plus => ['+']
  | minus => ['-']

theorem Sign.isBlank_of_mem {s : Sign} {c : Char} (h : c ∈ s.chars) : Text.isBlank c = false := by
  cases s with
  | absent => cases h
  | plus =>
    rw [List.mem_singleton.mp h]
    decide
  | minus =>
    rw [List.mem_singleton.mp h]
    decide

/-- **Whole numbers as text**: digits, a sign in front of them or none, and blanks around both. -/
structure Spelling where
  before : List Char
  sign : Sign
  digits : List Char
  after : List Char
  isBlank_before : ∀ c ∈ before, Text.isBlank c = true
  digits_ne_nil : digits ≠ []
  isDigit : ∀ c ∈ digits, c.isDigit = true
  isBlank_after : ∀ c ∈ after, Text.isBlank c = true

namespace Spelling

def text (s : Spelling) : String :=
  String.ofList (s.before ++ (s.sign.chars ++ s.digits) ++ s.after)

/-- The number that the digits stand for. -/
def magnitude (s : Spelling) : Nat := Nat.ofDigitChars 10 s.digits 0

theorem isDigits (s : Spelling) : Numeral.isDigits s.digits = true :=
  Numeral.isDigits_iff.mpr ⟨s.digits_ne_nil, s.isDigit⟩

theorem trimChars_text (s : Spelling) :
    Text.trimChars s.text.toList = s.sign.chars ++ s.digits := by
  rw [text, String.toList_ofList]
  refine Text.trimChars_padded s.isBlank_before (fun c hc => ?_) s.isBlank_after
  rcases List.mem_append.mp hc with hc | hc
  · exact Sign.isBlank_of_mem hc
  · exact Text.isBlank_of_isDigit (s.isDigit c hc)

/-- The text of an integer is one of its spellings. -/
def ofInt (n : Int) : Spelling where
  before := []
  sign := if n < 0 then .minus else .absent
  digits := Nat.toDigits 10 n.natAbs
  after := []
  isBlank_before := List.forall_mem_nil _
  digits_ne_nil := Nat.toDigits_ne_nil
  isDigit := (Numeral.isDigits_iff.mp (Numeral.isDigits_toDigits _)).2
  isBlank_after := List.forall_mem_nil _

theorem text_ofInt (n : Int) : (ofInt n).text = toString n := by
  rw [← String.toList_inj, text, String.toList_ofList]
  cases n with
  | ofNat n =>
    have hsign : ¬ Int.ofNat n < 0 := by simp
    rw [toList_toString_ofNat, ofInt, if_neg hsign]
    simp [Sign.chars]
  | negSucc n =>
    rw [toList_toString_negSucc, ofInt, if_pos (Int.negSucc_lt_zero n)]
    simp [Sign.chars]

theorem magnitude_ofInt (n : Int) : (ofInt n).magnitude = n.natAbs :=
  Nat.ofDigitChars_ten_toDigits

end Spelling

/-- Digits count as their number up to the limit, whichever of the two readings takes them. -/
theorem ofText_of_readings {text : String} {cs : List Char} {n : Nat}
    (htrim : Text.trimChars text.toList = cs)
    (hcount : Numeral.count? Json.maxUnsigned cs = if n ≤ Json.maxUnsigned then some n else none)
    (hreal : Numeral.real? cs = some (.ofNat n)) : ofText text = min n (2 ^ 64 - 1) := by
  have hlimit : Json.maxUnsigned = 2 ^ 64 - 1 := by decide
  simp only [ofText, htrim, hcount, hreal]
  by_cases h : n ≤ Json.maxUnsigned
  · rw [if_pos h, min_eq_left (hlimit ▸ h)]
  · have hfloor := Magnitude.maxUnsigned_le_floor (n := n) (by omega)
    simp only [if_neg h, Binary64.saturate_ofNat, min_eq_right hfloor]
    omega

/-- **What a whole number counts as in text**: itself up to the limit, and zero behind a minus sign.
-/
theorem ofText_text (s : Spelling) :
    ofText s.text = if s.sign = .minus then 0 else min s.magnitude (2 ^ 64 - 1) := by
  have htrim := s.trimChars_text
  cases hs : s.sign with
  | absent =>
    rw [hs] at htrim
    exact ofText_of_readings htrim (Numeral.count?_of_isDigits s.isDigits _)
      (Numeral.real?_of_isDigits s.isDigits)
  | plus =>
    rw [hs] at htrim
    exact ofText_of_readings htrim (Numeral.count?_plus s.isDigits _)
      (Numeral.real?_plus s.isDigits)
  | minus =>
    rw [hs] at htrim
    have hcount : Numeral.count? Json.maxUnsigned (Sign.minus.chars ++ s.digits) = none :=
      Numeral.count?_minus _
    have hreal : Numeral.real? (Sign.minus.chars ++ s.digits) = _ :=
      Numeral.real?_minus s.isDigits
    simp only [ofText, htrim, hcount, hreal, Binary64.saturate_opposite, if_true]

theorem ofText_toString {n : Int} (h : n < 2 ^ 64) : ofText (toString n) = n.toNat := by
  have hsign : (Spelling.ofInt n).sign = .minus ↔ n < 0 := by simp [Spelling.ofInt]
  rw [← Spelling.text_ofInt, ofText_text, Spelling.magnitude_ofInt]
  simp only [hsign]
  split <;> omega

/-- **A count is the same as a number and as text.** As text a whole number of any length counts as
itself up to the limit of 64 bits, and as zero behind a minus sign. As a number of 64 bits, signed
or not, it counts as itself or as zero, and so does its decimal text. -/
theorem parse_text_and_number :
    (∀ s : Spelling, parse (some (.string s.text)) =
      if s.sign = .minus then 0 else min s.magnitude (2 ^ 64 - 1)) ∧
    ∀ n : Int, -2 ^ 63 ≤ n → n < 2 ^ 64 →
      (parse (some (.ofInt n)) : Int) = max n 0 ∧
      parse (some (.ofInt n)) = parse (some (.string (toString n))) := by
  refine ⟨ofText_text, fun n hlow hhigh => ?_⟩
  have hmin : Json.minSigned = -2 ^ 63 := by decide
  have hmax : (Json.maxUnsigned : Int) = 2 ^ 64 - 1 := by decide
  have hnumber : parse (some (.ofInt n)) = n.toNat := by
    rw [Json.ofInt, Json.Number.ofInt?_of_fits ⟨by omega, by omega⟩]
    rfl
  have htext : parse (some (.string (toString n))) = n.toNat := ofText_toString hhigh
  exact ⟨by rw [hnumber, Int.ofNat_toNat], hnumber.trans htext.symm⟩

/-- The first number beyond the limit, with a sign, zeros in front and blanks around. -/
def Spelling.beyond : Spelling where
  before := ['\u2003', '\t']
  sign := .plus
  digits := "0018446744073709551616".toList
  after := ['\u00a0']
  isBlank_before := List.all_eq_true.mp (by decide)
  digits_ne_nil := by decide
  isDigit := List.all_eq_true.mp (by decide)
  isBlank_after := List.all_eq_true.mp (by decide)

/-- A text beyond the limit, the greatest count, and the least integer. -/
theorem parse_text_and_number_beyond :
    Spelling.beyond.text = "\u2003\t+0018446744073709551616\u00a0" ∧
    parse (some (.string Spelling.beyond.text)) = 2 ^ 64 - 1 ∧
    (parse (some (.ofInt (2 ^ 64 - 1))) : Int) = 2 ^ 64 - 1 ∧
    parse (some (.ofInt (2 ^ 64 - 1))) = parse (some (.string "18446744073709551615")) ∧
    parse (some (.ofInt (-2 ^ 63))) = parse (some (.string "-9223372036854775808")) := by
  obtain ⟨htext, hnumber⟩ := parse_text_and_number
  have hgreatest := hnumber (2 ^ 64 - 1) (by decide) (by decide)
  have hleast := hnumber (-2 ^ 63) (by decide) (by decide)
  have hmagnitude : Spelling.beyond.magnitude = 2 ^ 64 := by decide +kernel
  refine ⟨by decide, ?_, hgreatest.1, hgreatest.2, hleast.2⟩
  rw [htext, hmagnitude]
  decide

end Count

end QueryBatch
