import QueryBatch.Keyed
import QueryBatch.Json.Number

/-!
# JSON values

The values of JSON. The fields of an object are a keyed list: whatever builds an object puts each
key once, and the keys in their order.

* `Json`: the values, whose equality can be decided.
* `Json.ofInt`, `Json.ofNat`, `Json.ofBinary64`, `Json.ofFields`: values from what they hold.
* `Json.same`: equality up to the kind of numbers, so that `1` and `1.0` are the same.
-/

namespace QueryBatch

/-- **JSON values.** -/
inductive Json
  | null
  | bool (value : Bool)
  | number (value : Json.Number)
  | string (value : String)
  | array (items : List Json)
  | object (fields : List (String × Json))
deriving Inhabited

namespace Json

def ofNumber? : Option Json.Number → Json
  | none => .null
  | some n => .number n

def ofInt (i : Int) : Json := ofNumber? (Number.ofInt? i)

def ofNat (n : Nat) : Json := ofInt n

/-- A binary64 number; JSON has no infinite numbers, and null stands for them. -/
def ofBinary64 (x : Binary64) : Json := ofNumber? (Number.ofBinary64? x)

/-- An object from fields in any order; the last value of each key counts. -/
def ofFields (fields : List (String × Json)) : Json := .object (Keyed.ofList fields)

/-- A list of texts. -/
def ofStrings (l : List String) : Json := .array (l.map .string)

def ofString? : Option String → Json
  | none => .null
  | some s => .string s

def string? : Json → Option String
  | .string s => some s
  | _ => none

def array? : Json → Option (List Json)
  | .array l => some l
  | _ => none

def object? : Json → Option (Keyed Json)
  | .object fields => some fields
  | _ => none

/-- The field of an object under a key. -/
def field? (k : String) (j : Json) : Option Json := j.object?.bind (Keyed.get? k)

mutual

/-- Equality as a truth value. -/
def isEqual : Json → Json → Bool
  | .null, .null => true
  | .bool a, .bool b => a == b
  | .number a, .number b => decide (a = b)
  | .string a, .string b => a == b
  | .array a, .array b => isEqualItems a b
  | .object a, .object b => isEqualFields a b
  | _, _ => false

/-- Equality of the items of two arrays as a truth value. -/
def isEqualItems : List Json → List Json → Bool
  | [], [] => true
  | a :: as, b :: bs => isEqual a b && isEqualItems as bs
  | _, _ => false

/-- Equality of the fields of two objects as a truth value. -/
def isEqualFields : List (String × Json) → List (String × Json) → Bool
  | [], [] => true
  | (k, a) :: as, (l, b) :: bs => k == l && isEqual a b && isEqualFields as bs
  | _, _ => false

end

mutual

theorem isEqual_iff : ∀ a b : Json, isEqual a b = true ↔ a = b
  | .null, b => by cases b <;> simp [isEqual]
  | .bool x, b => by cases b <;> simp [isEqual]
  | .number n, b => by cases b <;> simp [isEqual]
  | .string s, b => by cases b <;> simp [isEqual]
  | .array l, b => by
    cases b with
    | array m => simpa [isEqual] using isEqualItems_iff l m
    | _ => simp [isEqual]
  | .object l, b => by
    cases b with
    | object m => simpa [isEqual] using isEqualFields_iff l m
    | _ => simp [isEqual]

theorem isEqualItems_iff : ∀ a b : List Json, isEqualItems a b = true ↔ a = b
  | [], b => by cases b <;> simp [isEqualItems]
  | x :: r, b => by
    cases b with
    | nil => simp [isEqualItems]
    | cons y s => simp [isEqualItems, isEqual_iff x y, isEqualItems_iff r s]

theorem isEqualFields_iff : ∀ a b : List (String × Json), isEqualFields a b = true ↔ a = b
  | [], b => by cases b <;> simp [isEqualFields]
  | (k, x) :: r, b => by
    cases b with
    | nil => simp [isEqualFields]
    | cons y s =>
      obtain ⟨l, y⟩ := y
      simp [isEqualFields, isEqual_iff x y, isEqualFields_iff r s]

end

instance : DecidableEq Json := fun a b => decidable_of_iff _ (isEqual_iff a b)

mutual

/-- Equality up to the kind of numbers. -/
def same : Json → Json → Bool
  | .null, .null => true
  | .bool a, .bool b => a == b
  | .number a, .number b => a.units == b.units
  | .string a, .string b => a == b
  | .array a, .array b => sameItems a b
  | .object a, .object b => sameFields a b
  | _, _ => false

/-- Equality of the items of two arrays. -/
def sameItems : List Json → List Json → Bool
  | [], [] => true
  | a :: as, b :: bs => same a b && sameItems as bs
  | _, _ => false

/-- Equality of the fields of two objects. -/
def sameFields : List (String × Json) → List (String × Json) → Bool
  | [], [] => true
  | (k, a) :: as, (l, b) :: bs => k == l && same a b && sameFields as bs
  | _, _ => false

end

end Json

end QueryBatch
