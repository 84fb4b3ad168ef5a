/-!
# Races

Several things may end a call: its own result, a deadline, a cancellation. The one that comes
first does.

* `Race.first`: the first of several moments, with what happens then.
-/

namespace QueryBatch.Race

variable {α : Type}

/-- **The first** of several moments, and of several at once the one that stands first; a moment
that is absent never comes. -/
def first : List (Option Nat × α) → Option (Nat × α)
  | [] => none
  | (none, _) :: r => first r
  | (some t, a) :: r =>
    match first r with
    | none => some (t, a)
    | some (u, b) => if u < t then some (u, b) else some (t, a)

/-- A moment a while after another one, if it ever comes. -/
def after (start : Nat) (delay : Option Nat) : Option Nat := delay.map (start + ·)

/-- The moment of a cancellation for something that starts later or earlier. -/
def noEarlier (start : Nat) (moment : Option Nat) : Option Nat := moment.map (max start)

end QueryBatch.Race
