import QueryBatch.Text.Combining
import QueryBatch.Text.Decomposition

/-!
# Composed text

Text that looks the same may be written in several ways: with a letter and its accents apart or as
one character, and with the accents in some order. Its *composed form* (normalization form C) is one
of them: everything is taken apart, the marks behind a character are put into the order of their
combining classes, and what can be written as one character is.

* `Text.decomposed`: text with everything apart and in order.
* `Text.composed`: the composed form.
-/

namespace QueryBatch.Text

/-! ### Syllables of Hangul

A syllable is a leading consonant, a vowel and perhaps a trailing consonant. All of them stand in
one block, in the order of the three. -/

def firstSyllable : Nat := 0xAC00

/-- The first leading consonant, of 19. -/
def firstLeading : Nat := 0x1100

def firstVowel : Nat := 0x1161

/-- What stands before the first trailing consonant, of 27. -/
def noTrailing : Nat := 0x11A7

/-- The letters of a syllable. -/
def syllableLetters? (n : Nat) : Option (List Nat) :=
  let i := n - firstSyllable
  if firstSyllable ≤ n ∧ i < 19 * 21 * 28 then
    let letters := [firstLeading + i / (21 * 28), firstVowel + i / 28 % 21]
    some (if i % 28 = 0 then letters else letters ++ [noTrailing + i % 28])
  else none

/-- The syllable of a leading consonant and a vowel, or of a syllable and a trailing consonant. -/
def syllable? (a b : Nat) : Option Nat :=
  if firstLeading ≤ a ∧ a < firstLeading + 19 ∧ firstVowel ≤ b ∧ b < firstVowel + 21 then
    some (firstSyllable + ((a - firstLeading) * 21 + (b - firstVowel)) * 28)
  else if firstSyllable ≤ a ∧ a < firstSyllable + 19 * 21 * 28 ∧ (a - firstSyllable) % 28 = 0 ∧
      noTrailing < b ∧ b < noTrailing + 28 then
    some (a + (b - noTrailing))
  else none

/-! ### Taking apart -/

/-- Takes a character apart by one step. -/
def takeApart (c : Char) : List Char :=
  match syllableLetters? c.toNat with
  | some letters => letters.map Char.ofNat
  | none => (replacement? decompositions c).getD [c]

/-- Puts a character behind others, the last of which comes first, and in front of the marks of
greater classes if it is a mark itself. -/
def placeMark (c : Char) : List Char → List Char
  | [] => [c]
  | x :: r =>
    if combiningClass c ≠ 0 ∧ combiningClass c < combiningClass x then x :: placeMark c r
    else c :: x :: r

/-- **Text with everything apart and in order.** Three steps take any character apart. -/
def decomposed (cs : List Char) : List Char :=
  let apart := ((cs.flatMap takeApart).flatMap takeApart).flatMap takeApart
  (apart.foldl (fun placed c => placeMark c placed) []).reverse

/-! ### Putting together -/

/-- The one character that two are written as. -/
def composite? (a b : Char) : Option Char :=
  let listed := composites.find? fun e => e.target == [a.toNat, b.toNat]
  ((syllable? a.toNat b.toNat).or (listed.map Replacement.first)).map Char.ofNat

/-- A character behind a base and marks, the last of which comes first, reaches the base only if no
mark of its class or a greater one stands between. -/
def isBlocked (marks : List Char) (c : Char) : Bool :=
  match marks with
  | [] => false
  | m :: _ => combiningClass c ≤ combiningClass m

/-- Puts together what follows a base and the marks that stay behind it, the last mark first. -/
def composeFrom (base : Char) (marks : List Char) : List Char → List Char
  | [] => base :: marks.reverse
  | c :: r =>
    match if isBlocked marks c then none else composite? base c with
    | some p => composeFrom p marks r
    | none =>
      if combiningClass c = 0 then base :: marks.reverse ++ composeFrom c [] r
      else composeFrom base (c :: marks) r

/-- Puts together what can be, where marks without a base stay as they are. -/
def compose : List Char → List Char
  | [] => []
  | c :: r => if combiningClass c = 0 then composeFrom c [] r else c :: compose r

/-- **The composed form of text.** -/
def composed (cs : List Char) : List Char := compose (decomposed cs)

end QueryBatch.Text
