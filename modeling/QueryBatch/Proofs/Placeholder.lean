import Mathlib.Data.List.TakeWhile
import QueryBatch.Proofs.Characters

/-! # Reading placeholders back

A dollar sign and all the digits behind it are a slot; every other character stands for itself. A
text falls into pieces in only one way, and the pieces of two texts side by side are those of the
one and of the other unless the second begins with a digit, which would lengthen the last slot of
the first.

* `pieces`: the pieces of a text. `Text.slots`: the numbers of its slots. `Text.fill`: the text with
  something else in its slots.
* `Text.pieces_append`: **the pieces of two texts**, if the second is `Text.Clear`.
* `Text.slots_placeholder`, `Text.fill_placeholder`: a placeholder is one slot, however many digits
  its number has.
-/

namespace QueryBatch

/-- A character, or a slot with its number. -/
inductive Piece
  | char (c : Char)
  | slot (number : Nat)
deriving DecidableEq

/-- **The pieces of a text.** `skips` says that a slot stands in front, whose digits are dropped. -/
def pieces (skips : Bool) : List Char → List Piece
  | [] => []
  | c :: r =>
    if c = '$' then .slot (Nat.ofDigitChars 10 (r.takeWhile Char.isDigit) 0) :: pieces true r
    else if skips && c.isDigit then pieces true r
    else .char c :: pieces false r

namespace Piece

def number? : Piece → Option Nat
  | .char _ => none
  | .slot k => some k

/-- A piece with a text in place of a slot. -/
def write (f : Nat → String) : Piece → List Char
  | .char c => [c]
  | .slot k => (f k).toList

end Piece

namespace Text

/-- **The numbers of the slots** of a text, in order. -/
def slots (s : String) : List Nat := (pieces false s.toList).filterMap Piece.number?

/-- **A text with other text in its slots.** -/
def fill (f : Nat → String) (s : String) : String :=
  String.ofList ((pieces false s.toList).flatMap (Piece.write f))

/-! ### Texts side by side -/

/-- A text without dollar signs has no slots. -/
abbrev Plain (s : String) : Prop := Within (fun c => c != '$') s

/-- A text that does not begin with a digit lengthens no slot in front of it. -/
def Clear (s : String) : Prop := ∀ c ∈ s.toList.head?, c.isDigit = false

instance (s : String) : Decidable (Clear s) :=
  Option.decidableForallMem s.toList.head?

variable {s t separator : String} {l : List String} {f : Nat → String}

theorem plain_of_not_mem (h : '$' ∉ s.toList) : Plain s := by
  intro c hc
  rw [bne_iff_ne]
  rintro rfl
  exact h hc

theorem plain_append : Plain (s ++ t) ↔ Plain s ∧ Plain t := within_append

theorem clear_append (hs : Clear s) (ht : Clear t) : Clear (s ++ t) := by
  unfold Clear at *
  rw [String.toList_append]
  cases h : s.toList with
  | nil => simpa using ht
  | cons c r => simpa [h] using hs

theorem clear_append_of_ne_empty (hs : Clear s) (hne : s ≠ "") (t : String) : Clear (s ++ t) := by
  unfold Clear at *
  rw [String.toList_append]
  cases h : s.toList with
  | nil => exact absurd (String.toList_eq_nil_iff.mp h) hne
  | cons c r => simpa [h] using hs

/-- Digits that are dropped do not matter to a text that begins with none. -/
theorem pieces_true_of_clear (h : Clear s) : pieces true s.toList = pieces false s.toList := by
  unfold Clear at h
  cases hs : s.toList with
  | nil => rfl
  | cons c r =>
    have hc : c.isDigit = false := h c (by rw [hs]; rfl)
    simp [pieces, hc]

theorem takeWhile_append_of_clear (ht : Clear t) (l : List Char) :
    (l ++ t.toList).takeWhile Char.isDigit = l.takeWhile Char.isDigit := by
  induction l with
  | nil =>
    unfold Clear at ht
    cases h : t.toList with
    | nil => rfl
    | cons c r => simp [List.takeWhile, ht c (by rw [h]; rfl)]
  | cons c r ih =>
    rw [List.cons_append, List.takeWhile_cons, List.takeWhile_cons, ih]

/-- **The pieces of two texts** side by side, of which the second is clear. -/
theorem pieces_append (ht : Clear t) (skips : Bool) (l : List Char) :
    pieces skips (l ++ t.toList) = pieces skips l ++ pieces false t.toList := by
  induction l generalizing skips with
  | nil =>
    cases skips with
    | false => rfl
    | true => exact pieces_true_of_clear ht
  | cons c r ih =>
    simp only [List.cons_append, pieces, takeWhile_append_of_clear ht, ih]
    split
    · rfl
    · split
      · rfl
      · rfl

theorem pieces_append_of_plain (hs : Plain s) (l : List Char) :
    pieces false (s.toList ++ l) = s.toList.map .char ++ pieces false l := by
  unfold Plain Within at hs
  generalize s.toList = cs at hs
  induction cs with
  | nil => rfl
  | cons c r ih =>
    have hc : c ≠ '$' := by simpa using hs c List.mem_cons_self
    rw [List.cons_append, pieces, if_neg hc, if_neg (by simp),
      ih fun c hr => hs c (List.mem_cons_of_mem _ hr)]
    rfl

theorem pieces_of_plain (hs : Plain s) : pieces false s.toList = s.toList.map .char := by
  have h := pieces_append_of_plain hs []
  rwa [List.append_nil, pieces, List.append_nil] at h

theorem pieces_placeholder (k : Nat) :
    pieces false (Params.placeholder k).toList = [.slot k] := by
  have hdigits : ∀ c ∈ Nat.toDigits 10 k, c.isDigit = true := fun c hc =>
    Nat.isDigit_of_mem_toDigits (by omega) (by omega) hc
  have htext : (Params.placeholder k).toList = '$' :: Nat.toDigits 10 k := by
    rw [Params.placeholder, String.toList_append, Nat.toString_eq_repr, Nat.toList_repr]
    rfl
  have hskip : ∀ l : List Char, (∀ c ∈ l, c.isDigit = true) → pieces true l = [] := by
    intro l hl
    induction l with
    | nil => rfl
    | cons c r ih =>
      have hc := hl c List.mem_cons_self
      have hne : c ≠ '$' := by
        rintro rfl
        revert hc
        decide
      rw [pieces, if_neg hne, if_pos (by simpa using hc),
        ih fun c hr => hl c (List.mem_cons_of_mem _ hr)]
  have htake : (Nat.toDigits 10 k).takeWhile Char.isDigit = Nat.toDigits 10 k :=
    List.takeWhile_eq_self_iff.mpr hdigits
  rw [htext, pieces, if_pos rfl, htake, Nat.ofDigitChars_ten_toDigits, hskip _ hdigits]

/-! ### Slots of composed text -/

theorem slots_append (ht : Clear t) : slots (s ++ t) = slots s ++ slots t := by
  unfold slots
  rw [String.toList_append, pieces_append ht, List.filterMap_append]

theorem slots_of_plain (hs : Plain s) : slots s = [] := by
  unfold slots
  rw [pieces_of_plain hs, List.filterMap_map]
  exact List.filterMap_eq_nil_iff.mpr fun _ _ => rfl

theorem slots_append_of_plain (hs : Plain s) : slots (s ++ t) = slots t := by
  have hchar := slots_of_plain hs
  unfold slots at hchar ⊢
  rw [pieces_of_plain hs] at hchar
  rw [String.toList_append, pieces_append_of_plain hs, List.filterMap_append, hchar,
    List.nil_append]

@[simp] theorem slots_placeholder (k : Nat) : slots (Params.placeholder k) = [k] := by
  rw [slots, pieces_placeholder]
  rfl

theorem fill_append (ht : Clear t) : fill f (s ++ t) = fill f s ++ fill f t := by
  unfold fill
  rw [String.toList_append, pieces_append ht, List.flatMap_append, String.ofList_append]

theorem fill_of_plain (hs : Plain s) : fill f s = s := by
  unfold fill
  rw [pieces_of_plain hs, List.flatMap_map]
  apply String.ext
  simp [Piece.write]

theorem fill_append_of_plain (hs : Plain s) : fill f (s ++ t) = s ++ fill f t := by
  have hchar := fill_of_plain (f := f) hs
  unfold fill at hchar ⊢
  rw [pieces_of_plain hs] at hchar
  rw [String.toList_append, pieces_append_of_plain hs, List.flatMap_append, String.ofList_append,
    hchar]

@[simp] theorem fill_placeholder (k : Nat) : fill f (Params.placeholder k) = f k := by
  rw [fill, pieces_placeholder]
  apply String.ext
  simp [Piece.write]

/-! ### Joined text -/

theorem clear_joined (hs : Clear separator) (hl : ∀ s ∈ l, Clear s) :
    Clear (joined separator l) := by
  induction l with
  | nil => intro c hc; simp at hc
  | cons s r ih =>
    have hhead := hl s List.mem_cons_self
    have htail := ih fun t ht => hl t (List.mem_cons_of_mem s ht)
    cases r with
    | nil => exact hhead
    | cons t r =>
      rw [joined_cons_cons]
      exact clear_append (clear_append hhead hs) htail

theorem clear_blank_append (s : String) : Clear (" " ++ s) :=
  clear_append_of_ne_empty (by decide) (by decide) s

/-- Words are apart, so that their slots are. -/
theorem slots_joined_blank (l : List String) : slots (joined " " l) = l.flatMap slots := by
  induction l with
  | nil => rfl
  | cons s r ih =>
    cases r with
    | nil => simp
    | cons t r =>
      rw [joined_cons_cons, String.append_assoc, slots_append (clear_blank_append _),
        slots_append_of_plain (by decide), ih]
      rfl

theorem fill_joined_of_plain (hs : Plain separator) (hc : ∀ s, Clear (separator ++ s))
    (l : List String) : fill f (joined separator l) = joined separator (l.map (fill f)) := by
  induction l with
  | nil => exact fill_of_plain (show Plain "" by decide)
  | cons s r ih =>
    cases r with
    | nil => rfl
    | cons t r =>
      rw [joined_cons_cons, String.append_assoc, fill_append (hc _), fill_append_of_plain hs, ih,
        ← String.append_assoc]
      rfl

theorem fill_joined_blank (l : List String) :
    fill f (joined " " l) = joined " " (l.map (fill f)) :=
  fill_joined_of_plain (by decide) clear_blank_append l

/-- Between plain texts of which all but the first are clear, the slots are those of what stands
between them. -/
theorem slots_joined (hs : Clear separator) (hl : ∀ s ∈ l, Plain s) (ht : ∀ s ∈ l.tail, Clear s) :
    slots (joined separator l) = (List.replicate (l.length - 1) (slots separator)).flatten := by
  induction l with
  | nil => rfl
  | cons s r ih =>
    have hplain := hl s List.mem_cons_self
    cases r with
    | nil => exact slots_of_plain hplain
    | cons t r =>
      have hr := ih (fun u hu => hl u (List.mem_cons_of_mem s hu))
        fun u hu => ht u (List.mem_cons_of_mem t hu)
      rw [joined_cons_cons, String.append_assoc, slots_append_of_plain hplain,
        slots_append (clear_joined hs (l := t :: r) ht), hr]
      rfl

theorem fill_joined (hs : Clear separator) (hl : ∀ s ∈ l, Plain s) (ht : ∀ s ∈ l.tail, Clear s) :
    fill f (joined separator l) = joined (fill f separator) l := by
  induction l with
  | nil => exact fill_of_plain (show Plain "" by decide)
  | cons s r ih =>
    have hplain := hl s List.mem_cons_self
    cases r with
    | nil => exact fill_of_plain hplain
    | cons t r =>
      have hr := ih (fun u hu => hl u (List.mem_cons_of_mem s hu))
        fun u hu => ht u (List.mem_cons_of_mem t hu)
      rw [joined_cons_cons, String.append_assoc, fill_append_of_plain hplain,
        fill_append (clear_joined hs (l := t :: r) ht), hr, joined_cons_cons, String.append_assoc]

end Text

end QueryBatch
