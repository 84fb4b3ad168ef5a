/-!
# Joined text

* `Text.joined`: texts one after the other, with a separator between two of them.
-/

namespace QueryBatch.Text

/-- Texts with a separator between any two neighbours. -/
def joined (separator : String) : List String → String
  | [] => ""
  | [s] => s
  | s :: r => s ++ separator ++ joined separator r

@[simp] theorem joined_nil (separator : String) : joined separator [] = "" := rfl

@[simp] theorem joined_singleton (separator s : String) : joined separator [s] = s := rfl

@[simp] theorem joined_cons_cons (separator s t : String) (r : List String) :
    joined separator (s :: t :: r) = s ++ separator ++ joined separator (t :: r) := rfl

end QueryBatch.Text
