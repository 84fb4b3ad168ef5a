import QueryBatch.Json.Printer

/-!
# The shape that a descriptor must have

Before a descriptor is decoded, its JSON value is checked part by part against fixed rules. Every
problem is reported, the parts taken in the order of their names, and null counts as a value of
its own type here. A rule about one type of value says nothing about values of other types.

* `Schema.Problem`: one broken rule, with its text.
* `Schema.problems`: all problems of a value.
-/

namespace QueryBatch.Schema

/-- The types that a rule can ask for. -/
inductive TypeName
  | object
  | string
  | array
  | integer
  | number
  | boolean
deriving DecidableEq

def TypeName.text : TypeName → String
  | .object => "object"
  | .string => "string"
  | .array => "array"
  | .integer => "integer"
  | .number => "number"
  | .boolean => "boolean"

/-- A value is of a type. A number without fraction is an integer however it is written. -/
def TypeName.admits : TypeName → Json → Bool
  | .object, .object _ => true
  | .string, .string _ => true
  | .array, .array _ => true
  | .integer, .number n => n.isWhole
  | .number, .number _ => true
  | .boolean, .bool _ => true
  | _, _ => false

/-- **Problems**: a value that breaks a rule. -/
inductive Problem
  | notOfType (value : Json) (type : TypeName)
  | noAlternative (value : Json)
  | notAmong (value : Json) (names : List String)
  | belowMinimum (value : Json) (minimum : Nat)
  | notAbove (value : Json) (bound : Nat)
  | emptyText (value : Json)
  | repeatedItems (value : Json)
  | missing (name : String)
deriving DecidableEq

/-- Up to three names in full; of more, the first two and the number of the others. -/
def candidates (names : List String) : String :=
  let shown := names.map fun n => (Json.string n).compact
  match shown with
  | [] => ""
  | [a] => a
  | [a, b] => s!"{a} or {b}"
  | [a, b, c] => s!"{a}, {b} or {c}"
  | a :: b :: r => s!"{a}, {b} or {r.length} other candidates"

def Problem.message : Problem → String
  | .notOfType v t => s!"{v.compact} is not of type {(Json.string t.text).compact}"
  | .noAlternative v =>
    s!"{v.compact} is not valid under any of the schemas listed in the 'oneOf' keyword"
  | .notAmong v names => s!"{v.compact} is not one of {candidates names}"
  | .belowMinimum v n => s!"{v.compact} is less than the minimum of {n}"
  | .notAbove v n => s!"{v.compact} is less than or equal to the minimum of {n}"
  | .emptyText v => s!"{v.compact} is shorter than 1 character"
  | .repeatedItems v => s!"{v.compact} has non-unique elements"
  | .missing name => s!"{(Json.string name).compact} is a required property"

/-- **Rules** say which problems a value has. -/
abbrev Rule := Json → List Problem

def hasType (t : TypeName) : Rule := fun j => if t.admits j then [] else [.notOfType j t]

/-- The value is one of some texts. -/
def isAmong (names : List String) : Rule := fun j =>
  match j with
  | .string s => if names.contains s then [] else [.notAmong j names]
  | _ => [.notAmong j names]

/-- A number is not below a minimum. -/
def atLeast (minimum : Nat) : Rule := fun j =>
  match j with
  | .number n =>
    if n.units < (minimum * Magnitude.unitsPerOne : Nat) then [.belowMinimum j minimum] else []
  | _ => []

/-- A number is above a bound. -/
def above (bound : Nat) : Rule := fun j =>
  match j with
  | .number n =>
    if n.units ≤ (bound * Magnitude.unitsPerOne : Nat) then [.notAbove j bound] else []
  | _ => []

def notEmpty : Rule := fun j =>
  match j with
  | .string s => if s.isEmpty then [.emptyText j] else []
  | _ => []

/-- Each item of an array keeps a rule. -/
def eachItem (rule : Rule) : Rule := fun j =>
  match j with
  | .array items => items.flatMap rule
  | _ => []

/-- No two items are the same. -/
def allDistinct : List Json → Bool
  | [] => true
  | j :: r => !r.any j.same && allDistinct r

/-- The items of an array are distinct. -/
def distinct : Rule := fun j =>
  match j with
  | .array items => if allDistinct items then [] else [.repeatedItems j]
  | _ => []

/-- The value has one of the shapes that a part may have. -/
def accepted (accepts : Json → Bool) : Rule := fun j =>
  if accepts j then [] else [.noAlternative j]

/-- A field of an object keeps a rule if it is there. -/
def fieldKeeps (name : String) (rule : Rule) : Rule := fun j =>
  match j.field? name with
  | some v => rule v
  | none => []

/-- All of some rules, in order. -/
def all (rules : List Rule) : Rule := fun j => rules.flatMap fun rule => rule j

def isTextOrTexts : Json → Bool
  | .string _ => true
  | .array items => items.all TypeName.string.admits
  | _ => false

/-- A text, or an object with a text as column and a number as weight, if there is a weight. -/
def isColumn : Json → Bool
  | .string _ => true
  | .object fields =>
    ((Keyed.get? "field" fields).map TypeName.string.admits).getD false &&
      ((Keyed.get? "weight" fields).map TypeName.number.admits).getD true
  | _ => false

def isTextOrColumns : Json → Bool
  | .string _ => true
  | .array items => items.all isColumn
  | _ => false

/-- The rules for the parts of a descriptor, by name and in the order of the names. -/
def parts : List (String × Rule) := [
  ("aggregationSize", all [atLeast 1, hasType .integer]),
  ("aggregations", all [eachItem (isAmong ["min", "max", "histogram"]), hasType .array, distinct]),
  ("dataField", accepted isTextOrColumns),
  ("defaultQuery", all [fieldKeeps "query" (hasType .string), hasType .object]),
  ("execute", hasType .boolean),
  ("from", all [atLeast 0, hasType .integer]),
  ("id", all [notEmpty, hasType .string]),
  ("includeFields", all [eachItem (hasType .string), hasType .array]),
  ("index", accepted isTextOrTexts),
  ("interval", all [above 0, hasType .number]),
  ("queryFormat", isAmong ["or", "and"]),
  ("queryVector", all [eachItem (hasType .number), hasType .array]),
  ("size", all [atLeast 0, hasType .integer]),
  ("sortBy", hasType .string),
  ("sortField", hasType .string),
  ("table", accepted isTextOrTexts),
  ("type", isAmong ["search", "suggestion", "term", "range"]),
  ("vectorDataField", hasType .string),
  ("where", hasType .string)]

/-- **All problems of a value.** A value that is no object has that problem alone. -/
def problems : Rule := fun j =>
  match j with
  | .object fields =>
    parts.flatMap (fun part => fieldKeeps part.1 part.2 j) ++
      (if Keyed.contains "id" fields then [] else [.missing "id"])
  | _ => [.notOfType j .object]

end QueryBatch.Schema
