import QueryBatch.Query.Error
import QueryBatch.Text.Blank

/-!
# Safe names

Names of relations and columns stand in a statement as they are. A name is refused if it is empty
or could end the place where it stands: if it has a quote, a semicolon, a backslash, a blank, or
the start of a comment.

* `Identifier.isSafe`: the names that are accepted.
* `Identifier.check`, `Identifier.checkAll`: the first name that is not, as an error.
-/

namespace QueryBatch.Identifier

/-- Characters that no name may have. -/
def isForbidden (c : Char) : Bool :=
  c == '\'' || c == '"' || c == ';' || c == '\\' || Text.isBlank c

/-- Two characters that start a comment. -/
def startsComment (a b : Char) : Bool := (a == '-' && b == '-') || (a == '/' && b == '*')

/-- A comment starts somewhere in a text. -/
def hasComment : List Char → Bool
  | [] => false
  | [_] => false
  | a :: b :: r => startsComment a b || hasComment (b :: r)

/-- **Safe names**, as characters. -/
def isSafeChars (cs : List Char) : Bool :=
  !cs.isEmpty && !cs.any isForbidden && !hasComment cs

/-- A name that may stand in a statement. -/
def isSafe (name : String) : Bool := isSafeChars name.toList

/-- Refuses a name that is not safe. -/
def check (name : String) : Except QueryError Unit :=
  if isSafe name then .ok () else .error (.invalidIdentifier name)

/-- Refuses the first name of a list that is not safe. -/
def checkAll : List String → Except QueryError Unit
  | [] => .ok ()
  | name :: r => do
    check name
    checkAll r

/-- Refuses a name that is there and not safe. -/
def checkOptional : Option String → Except QueryError Unit
  | none => .ok ()
  | some name => check name

@[simp] theorem check_eq_ok_iff {name : String} : check name = .ok () ↔ isSafe name = true := by
  by_cases h : isSafe name <;> simp [check, h]

theorem check_eq_error_iff {name : String} {e : QueryError} :
    check name = .error e ↔ isSafe name = false ∧ e = .invalidIdentifier name := by
  by_cases h : isSafe name <;> simp [check, h, eq_comm]

@[simp] theorem checkAll_eq_ok_iff {names : List String} :
    checkAll names = .ok () ↔ ∀ n ∈ names, isSafe n = true := by
  induction names with
  | nil => simp [checkAll]
  | cons n r ih =>
    by_cases h : isSafe n <;> simp [checkAll, check, h, bind, Except.bind, ih]

end QueryBatch.Identifier
