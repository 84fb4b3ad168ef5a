/-!
# Splitting text

* `Text.split`: the parts of a list of characters between marks.
* `Text.cut`: what stands before the first mark, and what stands behind it.
-/

namespace QueryBatch.Text

/-- The parts between marks, of which there is one more than there are marks. -/
def split (isMark : Char → Bool) : List Char → List (List Char)
  | [] => [[]]
  | c :: r =>
    match split isMark r with
    | [] => [[c]]
    | s :: rest => if isMark c then [] :: s :: rest else (c :: s) :: rest

/-- What stands before the first mark, and what stands behind it if there is one. -/
def cut (mark : Char) (cs : List Char) : List Char × Option (List Char) :=
  (cs.takeWhile (· != mark),
    match cs.dropWhile (· != mark) with
    | [] => none
    | _ :: r => some r)

theorem split_ne_nil (isMark : Char → Bool) (cs : List Char) : split isMark cs ≠ [] := by
  cases cs with
  | nil => simp [split]
  | cons c r =>
    simp only [split]
    split
    · simp
    · split <;> simp

theorem split_append_cons {isMark : Char → Bool} {part : List Char} {mark : Char}
    (hp : ∀ c ∈ part, isMark c = false) (hm : isMark mark = true) (rest : List Char) :
    split isMark (part ++ mark :: rest) = part :: split isMark rest := by
  induction part with
  | nil =>
    obtain ⟨s, r, hr⟩ := List.exists_cons_of_ne_nil (split_ne_nil isMark rest)
    simp [split, hr, hm]
  | cons c r ih => simp [split, ih fun x hx => hp x (by simp [hx]), hp c (by simp)]

example : split (· == '.') ['a', '.', '.', 'b'] = [['a'], [], ['b']] := by decide

end QueryBatch.Text
