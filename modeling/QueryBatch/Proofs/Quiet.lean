import Mathlib.Data.List.Chain
import QueryBatch.Proofs.ShortestDecimals

/-! # Quiet text

Text is *quiet* if it has no quote, no semicolon and no backslash and starts no comment. Safe names
are, and so is the text of every number: a minus sign stands only in front of a number and in front
of its exponent, where no other minus sign stands beside it.

A comment starts with two characters, so that it may start where two quiet texts meet. Nothing
starts there if the one ends, or the other begins, with a character that is not in the start of a
comment.

* `Text.isQuiet`: quiet text. `Text.isQuiet_iff`: the same, as a chain of neighbours.
* `isChain_append_of_last`, `isChain_append_of_head`: text put together from two texts.
* `Layout.isQuiet_write`, `Json.Number.isQuiet_text`: **the text of a number is quiet**.
-/

namespace QueryBatch

/-! ### Neighbours -/

/-- Two neighbours that start no comment. -/
def Apart (a b : Char) : Prop := Identifier.startsComment a b = false

/-- Not the first character of the start of a comment. -/
def opensNothing (c : Char) : Bool := c != '-' && c != '/'

/-- Not the second character of the start of a comment. -/
def closesNothing (c : Char) : Bool := c != '-' && c != '*'

theorem apart_of_left {a : Char} (h : opensNothing a = true) (b : Char) : Apart a b := by
  simp only [opensNothing, Bool.and_eq_true, bne_iff_ne] at h
  simp [Apart, Identifier.startsComment, h.1, h.2]

theorem apart_of_right {b : Char} (h : closesNothing b = true) (a : Char) : Apart a b := by
  simp only [closesNothing, Bool.and_eq_true, bne_iff_ne] at h
  simp [Apart, Identifier.startsComment, h.1, h.2]

theorem hasComment_eq_false_iff {l : List Char} :
    Identifier.hasComment l = false ↔ l.IsChain Apart := by
  induction l with
  | nil => simp [Identifier.hasComment]
  | cons a r ih =>
    cases r with
    | nil => simp [Identifier.hasComment]
    | cons b r =>
      rw [Identifier.hasComment, Bool.or_eq_false_iff, ih, List.isChain_cons_cons, Apart]

section Chains

variable {l m : List Char}

theorem isChain_append_of_last (hl : l.IsChain Apart) (hm : m.IsChain Apart)
    (h : l.getLast?.all opensNothing = true) : (l ++ m).IsChain Apart :=
  List.isChain_append.mpr
    ⟨hl, hm, fun c hc b _ => apart_of_left ((Option.all_eq_true _ _).mp h c hc) b⟩

theorem isChain_append_of_head (hl : l.IsChain Apart) (hm : m.IsChain Apart)
    (h : m.head?.all closesNothing = true) : (l ++ m).IsChain Apart :=
  List.isChain_append.mpr
    ⟨hl, hm, fun a _ c hc => apart_of_right ((Option.all_eq_true _ _).mp h c hc) a⟩

theorem isChain_append_of_all (hl : l.all opensNothing = true) (hm : m.IsChain Apart) :
    (l ++ m).IsChain Apart := by
  induction l with
  | nil => exact hm
  | cons a r ih =>
    rw [List.all_cons, Bool.and_eq_true] at hl
    rw [List.cons_append, List.isChain_cons]
    exact ⟨fun b _ => apart_of_left hl.1 b, ih hl.2⟩

theorem isChain_of_all (hl : l.all opensNothing = true) : l.IsChain Apart := by
  simpa using isChain_append_of_all hl List.isChain_nil

theorem isChain_between {before after : List Char} (hl : l.IsChain Apart)
    (hb : before.all opensNothing = true) (ha : after.all opensNothing = true)
    (hh : after.head?.all closesNothing = true) : (before ++ l ++ after).IsChain Apart :=
  isChain_append_of_head (isChain_append_of_all hb hl) (isChain_of_all ha) hh

end Chains

namespace Text

/-- A quote, a semicolon or a backslash. -/
def isSpecial (c : Char) : Bool := c == '\'' || c == '"' || c == ';' || c == '\\'

/-- **Quiet text**: it has no marks and starts no comment. -/
def isQuiet (s : String) : Bool :=
  (s.toList.all fun c => !isSpecial c) && !Identifier.hasComment s.toList

theorem isQuiet_iff {s : String} :
    isQuiet s = true ↔ Within (fun c => !isSpecial c) s ∧ s.toList.IsChain Apart := by
  rw [isQuiet, Bool.and_eq_true, List.all_eq_true, Bool.not_eq_true', hasComment_eq_false_iff]
  rfl

theorem isQuiet_of_isSafe {s : String} (h : Identifier.isSafe s = true) : isQuiet s = true := by
  simp only [Identifier.isSafe, Identifier.isSafeChars, Bool.and_eq_true, Bool.not_eq_true',
    List.any_eq_false] at h
  obtain ⟨⟨-, hforbidden⟩, hcomment⟩ := h
  refine isQuiet_iff.mpr ⟨fun c hc => ?_, hasComment_eq_false_iff.mp hcomment⟩
  have hnot := hforbidden c hc
  simp only [Identifier.isForbidden, Bool.or_eq_true, not_or] at hnot
  simp [isSpecial, hnot.1]

/-! ### Numbers -/

theorem isSpecial_eq_false_of_isNumeral {c : Char} (h : isNumeral c = true) :
    isSpecial c = false := by
  rw [Bool.eq_false_iff]
  intro hmark
  simp only [isSpecial, Bool.or_eq_true, beq_iff_eq] at hmark
  rcases hmark with ((rfl | rfl) | rfl) | rfl <;> revert h <;> decide

theorem isQuiet_of_isNumeral {s : String} (h : Within isNumeral s) (hc : s.toList.IsChain Apart) :
    isQuiet s = true :=
  isQuiet_iff.mpr ⟨h.mono fun c hc => by rw [isSpecial_eq_false_of_isNumeral hc]; rfl, hc⟩

theorem opensNothing_of_isDigit {c : Char} (h : c.isDigit = true) : opensNothing c = true := by
  rw [opensNothing, Bool.and_eq_true, bne_iff_ne, bne_iff_ne]
  constructor <;> rintro rfl <;> revert h <;> decide

theorem all_toDigits (n : Nat) : (Nat.toDigits 10 n).all opensNothing = true :=
  List.all_eq_true.mpr fun _ hc =>
    opensNothing_of_isDigit (Nat.isDigit_of_mem_toDigits (by omega) (by omega) hc)

theorem all_toString_nat (n : Nat) : (toString n).toList.all opensNothing = true := by
  rw [Nat.toString_eq_repr, Nat.toList_repr]
  exact all_toDigits n

theorem isQuiet_toString_nat (n : Nat) : isQuiet (toString n) = true :=
  isQuiet_of_isNumeral (within_toString_nat n) (isChain_of_all (all_toString_nat n))

theorem isChain_cons_minus {l : List Char} (hl : l.IsChain Apart)
    (h : l.head?.all opensNothing = true) : ('-' :: l).IsChain Apart := by
  refine List.isChain_cons.mpr ⟨fun c hc => ?_, hl⟩
  have hne := (Option.all_eq_true _ _).mp h c hc
  simp only [opensNothing, Bool.and_eq_true, bne_iff_ne] at hne
  simp [Apart, Identifier.startsComment, hne.1]

theorem all_head? {l : List Char} (h : l.all opensNothing = true) :
    l.head?.all opensNothing = true := by
  cases l with
  | nil => rfl
  | cons a r =>
    rw [List.all_cons, Bool.and_eq_true] at h
    exact h.1

theorem isChain_toString_int (i : Int) : (toString i).toList.IsChain Apart := by
  cases i with
  | ofNat n => exact isChain_of_all (all_toString_nat n)
  | negSucc n =>
    have hdigits := all_toDigits (n + 1)
    rw [toList_toString_negSucc]
    exact isChain_cons_minus (isChain_of_all hdigits) (all_head? hdigits)

end Text

open Text

/-- A minus sign stands in a literal only behind the letter of its exponent. -/
theorem Numeral.Literal.isChain_chars (l : Numeral.Literal) : l.chars.IsChain Apart := by
  have hmantissa : (l.whole ++ fractionChars l.fraction).all opensNothing = true := by
    refine List.all_eq_true.mpr fun c hc => ?_
    rcases l.isDigit_or_point hc with hc | rfl
    · exact opensNothing_of_isDigit hc
    · decide
  unfold chars
  cases l.exponent with
  | none =>
    rw [exponentChars, List.append_nil]
    exact isChain_of_all hmantissa
  | some e =>
    have hletter : ('e' :: if l.signsExponent && 0 ≤ e then ['+'] else []).all
        opensNothing = true := by split <;> decide
    rw [exponentChars, ← List.cons_append, ← List.append_assoc]
    refine isChain_append_of_all ?_ (isChain_toString_int e)
    rw [List.all_append, hmantissa, hletter, Bool.and_self]

namespace Layout

variable (l : Layout)

theorem isChain_magnitude (m : Magnitude) :
    (l.magnitude m).IsChain Apart ∧ (l.magnitude m).head?.all opensNothing = true := by
  obtain ⟨lit, hlit, -, -⟩ := l.exists_literal m
  obtain ⟨c, r, hchars, hc⟩ := lit.exists_chars_eq
  rw [hlit]
  refine ⟨lit.isChain_chars, ?_⟩
  rw [hchars, List.head?_cons, Option.all_some]
  exact opensNothing_of_isDigit hc

/-- **The text of a number is quiet**, in every layout, also if it is infinite or no number. -/
theorem isQuiet_write (x : Binary64) : isQuiet (l.write x) = true := by
  refine isQuiet_of_isNumeral (l.within_write x) ?_
  cases x with
  | nan =>
    show "NaN".toList.IsChain Apart
    exact isChain_of_all (by decide)
  | real s m =>
    have hbody : ∀ body : List Char,
        body.IsChain Apart ∧ body.head?.all opensNothing = true →
        ((if s then ['-'] else []) ++ body).IsChain Apart := by
      intro body hb
      cases s with
      | true => exact isChain_cons_minus hb.1 hb.2
      | false => exact hb.1
    rw [write, String.toList_ofList]
    refine hbody _ ?_
    split
    · exact l.isChain_magnitude m
    · exact ⟨isChain_of_all (by decide), by decide⟩

end Layout

theorem Json.Number.isQuiet_text (n : Json.Number) : isQuiet n.text = true := by
  cases n with
  | int i _ => exact isQuiet_of_isNumeral (within_toString_int i) (isChain_toString_int i)
  | double x _ => exact Layout.json.isQuiet_write x

namespace Text

theorem isQuiet_widthLiteral (x : Binary64) : isQuiet (widthLiteral x) = true := by
  unfold widthLiteral
  split
  · decide
  · exact Layout.width.isQuiet_write x

theorem isQuiet_append {s t : String} (hs : isQuiet s = true) (ht : isQuiet t = true)
    (h : s.toList.getLast?.all opensNothing = true) : isQuiet (s ++ t) = true := by
  rw [isQuiet_iff] at hs ht ⊢
  refine ⟨within_append.mpr ⟨hs.1, ht.1⟩, ?_⟩
  rw [String.toList_append]
  exact isChain_append_of_last hs.2 ht.2 h

theorem isQuiet_placeholder (k : Nat) : isQuiet (Params.placeholder k) = true :=
  isQuiet_append (by decide) (isQuiet_toString_nat k) (by decide)

theorem not_isAlphanum_of_isSpecial {c : Char} (h : isSpecial c = true ∨ opensNothing c = false) :
    c.isAlphanum = false ∧ c ≠ '_' := by
  simp only [isSpecial, opensNothing, Bool.or_eq_true, beq_iff_eq, Bool.and_eq_false_iff,
    bne_eq_false_iff_eq] at h
  rcases h with (((rfl | rfl) | rfl) | rfl) | (rfl | rfl) <;> decide

theorem nameChar_isQuiet (a : Char) :
    isSpecial (Column.nameChar a) = false ∧ opensNothing (Column.nameChar a) = true := by
  have hname : (Column.nameChar a).isAlphanum = true ∨ Column.nameChar a = '_' := by
    unfold Column.nameChar
    split
    · next ha => exact .inl ha
    · exact .inr rfl
  have hnot : ¬ (isSpecial (Column.nameChar a) = true ∨
      opensNothing (Column.nameChar a) = false) := by
    intro h
    obtain ⟨hletter, hline⟩ := not_isAlphanum_of_isSpecial h
    rcases hname with hname | hname
    · rw [hletter] at hname
      cases hname
    · exact hline hname
  simpa using hnot

theorem isQuiet_termCount (field : String) : isQuiet (Column.termCount field) = true := by
  have hwithin : Within (fun c => !isSpecial c)
      (String.ofList (field.toList.map Column.nameChar)) := by
    intro c hc
    rw [String.toList_ofList] at hc
    obtain ⟨a, -, rfl⟩ := List.mem_map.mp hc
    simp [(nameChar_isQuiet a).1]
  have hchain : (String.ofList (field.toList.map Column.nameChar)).toList.IsChain Apart := by
    rw [String.toList_ofList]
    refine isChain_of_all (List.all_eq_true.mpr fun c hc => ?_)
    obtain ⟨a, -, rfl⟩ := List.mem_map.mp hc
    exact (nameChar_isQuiet a).2
  exact isQuiet_append (by decide) (isQuiet_iff.mpr ⟨hwithin, hchain⟩) (by decide)

end Text

end QueryBatch
