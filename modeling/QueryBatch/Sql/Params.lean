import QueryBatch.Query.Value

/-!
# Parameters

Text of a caller never stands in a statement: it is bound as a parameter, and a numbered
placeholder stands for it. Parameters are numbered from one in the order in which they are bound.

* `Params.bind`, `Params.bindAll`: bind values and give their placeholders.
-/

namespace QueryBatch

/-- **Parameters** bound so far, in order. -/
structure Params where
  bound : List Scalar
deriving DecidableEq, Inhabited

namespace Params

def empty : Params := ⟨[]⟩

def size (p : Params) : Nat := p.bound.length

/-- The text that stands for the parameter with a number. -/
def placeholder (number : Nat) : String := "$" ++ toString number

def bind (p : Params) (s : Scalar) : String × Params :=
  (placeholder (p.size + 1), ⟨p.bound ++ [s]⟩)

/-- Binds values in order. -/
def bindAll (p : Params) : List Scalar → List String × Params
  | [] => ([], p)
  | s :: r =>
    let (placeholder, p') := p.bind s
    let (placeholders, p'') := p'.bindAll r
    (placeholder :: placeholders, p'')

@[simp] theorem bound_bindAll (p : Params) (l : List Scalar) :
    (p.bindAll l).2.bound = p.bound ++ l := by
  induction l generalizing p with
  | nil => simp [bindAll]
  | cons s r ih => simp [bindAll, ih, bind]

theorem fst_bindAll (p : Params) (l : List Scalar) :
    (p.bindAll l).1 = l.mapIdx fun i _ => placeholder (p.size + i + 1) := by
  induction l generalizing p with
  | nil => rfl
  | cons s r ih => simp [bindAll, ih, bind, size, Nat.add_assoc, Nat.add_comm, Nat.add_left_comm]

end Params

end QueryBatch
