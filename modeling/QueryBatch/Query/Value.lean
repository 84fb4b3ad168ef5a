import QueryBatch.Query.Error
import QueryBatch.Descriptor.Basic

/-!
# Values of a query

The value of a descriptor has one of two shapes. A *match* is a scalar or a list of scalars; a
*range* is an object with a start and an end, each of them a number or a text. Null and the empty
text stand for no value in both.

* `Scalar`: texts, numbers and truth values, which a statement can have as parameters.
* `Match.parse`, `Range.parse`: the value of a descriptor in the two shapes.
* `SortOrder.parse`: the direction of an order.
-/

namespace QueryBatch

/-- **Scalars.** -/
inductive Scalar
  | text (value : String)
  | number (value : Json.Number)
  | bool (value : Bool)
deriving DecidableEq, Inhabited

/-- The text that a pattern is made of. -/
def Scalar.asText : Scalar → String
  | .text s => s
  | .number n => n.text
  | .bool b => if b then "true" else "false"

def Scalar.encode : Scalar → Json
  | .text s => .string s
  | .number n => .number n
  | .bool b => .bool b

/-- The scalar of a JSON value; null and the empty text have none. -/
def Scalar.parse : Json → Except QueryError (Option Scalar)
  | .null => .ok none
  | .string s => .ok (if s.isEmpty then none else some (.text s))
  | .number n => .ok (some (.number n))
  | .bool b => .ok (some (.bool b))
  | .array _ => .error (.invalidArgument .notMatchable)
  | .object _ => .error (.invalidArgument .notMatchable)

/-- **Matches**: one scalar, or several, of which there is at least one. -/
inductive Match
  | single (scalar : Scalar)
  | many (scalars : List Scalar)
deriving DecidableEq, Inhabited

namespace Match

def scalars : Match → List Scalar
  | .single s => [s]
  | .many l => l

/-- The match of a value, if there is one. -/
def parse : Option Json → Except QueryError (Option Match)
  | none => .ok none
  | some (.array items) => do
    let found ← items.mapM Scalar.parse
    let l := found.filterMap id
    pure (if l.isEmpty then none else some (.many l))
  | some j => do
    let found ← Scalar.parse j
    pure (found.map .single)

end Match

/-- An end of a range. -/
inductive Bound
  | number (value : Json.Number)
  | text (value : String)
deriving DecidableEq, Inhabited

/-- The bound of a value, if there is one; `side` is the name under which it stands. -/
def Bound.parse (side : String) : Option Json → Except QueryError (Option Bound)
  | none => .ok none
  | some .null => .ok none
  | some (.number n) => .ok (some (.number n))
  | some (.string s) => .ok (if s.isEmpty then none else some (.text s))
  | some j => .error (.invalidArgument (.notBound side j))

/-- **Ranges**, open at the sides that have no bound. -/
structure Range where
  start : Option Bound
  stop : Option Bound
deriving DecidableEq, Inhabited

/-- The range of a value, if it has a bound. -/
def Range.parse : Option Json → Except QueryError (Option Range)
  | none => .ok none
  | some .null => .ok none
  | some (.object fields) => do
    let start ← Bound.parse "start" (Keyed.get? "start" fields)
    let stop ← Bound.parse "end" (Keyed.get? "end" fields)
    pure (if start.isNone && stop.isNone then none else some ⟨start, stop⟩)
  | some _ => .error (.invalidArgument .notRange)

inductive SortOrder
  | asc
  | desc
deriving DecidableEq, Inhabited

def SortOrder.name : SortOrder → String
  | .asc => "asc"
  | .desc => "desc"

/-- A text with the Latin capital letters A to Z made small. -/
def lowered (s : String) : String := String.ofList (s.toList.map Char.toLower)

/-- The direction of a word in any case. -/
def SortOrder.parse (word : String) : Except QueryError SortOrder :=
  if lowered word = "asc" then .ok .asc
  else if lowered word = "desc" then .ok .desc
  else .error (.invalidArgument (.unknownOrder (lowered word)))

end QueryBatch
