import QueryBatch.Json.Basic
import QueryBatch.Text.Quoted

/-!
# Decoding JSON values

A decoder takes a JSON value for a value of some other type, or says what it found where it
expected something else.

* `Json.Mismatch`: why a value cannot be decoded, with its text.
* `Json.Decoder`: decoders; `string`, `count`, `real`, `bool`, `list`, `optional`, `variant` are
  the usual ones.
-/

namespace QueryBatch.Json

/-- **Mismatches**: why a value cannot be decoded. -/
inductive Mismatch
  /-- A value of another type than expected. -/
  | wrongType (found : Json) (expected : String)
  /-- A value of the right type that is out of place; `found` describes it. -/
  | wrongValue (found expected : String)
  | wrongLength (length : Nat) (expected : String)
  | unknownVariant (name : String) (known : List String)
  | noVariant (type : String)
  | duplicateField (name : String)
  | invalidAddress
deriving DecidableEq, Inhabited

/-- What a message calls a value that is of the wrong type. -/
def described : Json → String
  | .null => "null"
  | .bool b => s!"boolean `{b}`"
  | .number (.int i _) => s!"integer `{i}`"
  | .number (.double x _) => s!"floating point `{Layout.json.write x}`"
  | .string s => s!"string {Text.quoted s}"
  | .array _ => "sequence"
  | .object _ => "map"

/-- Names between backquotes: two joined by `or`, more as a list. -/
def Mismatch.alternatives : List String → String
  | [a, b] => s!"`{a}` or `{b}`"
  | names => "one of " ++ ", ".intercalate (names.map fun n => s!"`{n}`")

def Mismatch.message : Mismatch → String
  | .wrongType found expected => s!"invalid type: {found.described}, expected {expected}"
  | .wrongValue found expected => s!"invalid value: {found}, expected {expected}"
  | .wrongLength length expected => s!"invalid length {length}, expected {expected}"
  | .unknownVariant name known =>
    s!"unknown variant `{name}`, expected {Mismatch.alternatives known}"
  | .noVariant type => s!"data did not match any variant of untagged enum {type}"
  | .duplicateField name => s!"duplicate field `{name}`"
  | .invalidAddress => "invalid socket address syntax"

/-- **Decoders.** -/
abbrev Decoder (α : Type) := Json → Except Mismatch α

namespace Decoder

variable {α : Type}

def string : Decoder String
  | .string s => .ok s
  | j => .error (.wrongType j "a string")

def bool : Decoder Bool
  | .bool b => .ok b
  | j => .error (.wrongType j "a boolean")

/-- An integer that is not negative; `width` is the name of the type that holds it. -/
def count (width : String) : Decoder Nat
  | .number (.int i fits) =>
    if i < 0 then .error (.wrongValue (described (.number (.int i fits))) width) else .ok i.toNat
  | j => .error (.wrongType j width)

/-- A number, taken to the nearest binary64 number. -/
def real : Decoder Binary64
  | .number n => .ok n.toBinary64
  | j => .error (.wrongType j "f64")

/-- An array of values, decoded in order. -/
def list (item : Decoder α) : Decoder (List α)
  | .array items => items.mapM item
  | j => .error (.wrongType j "a sequence")

/-- A value that may be null. -/
def optional (some' : Decoder α) : Decoder (Option α)
  | .null => .ok none
  | j => (some' j).map some

/-- The value that a name stands for. -/
def named (known : List (String × α)) (name : String) : Except Mismatch α :=
  match known.lookup name with
  | some a => .ok a
  | none => .error (.unknownVariant name (known.map Prod.fst))

/-- One of some named values, written as its name or as an object that has the name as its only
key and null under it. -/
def variant (known : List (String × α)) : Decoder α
  | .string name => named known name
  | .object [(name, j)] => do
    let a ← named known name
    match j with
    | .null => pure a
    | _ => throw (.wrongType j "unit")
  | .object _ => .error (.wrongValue "map" "map with a single key")
  | j => .error (.wrongType j "string or map")

/-- The field of an object, if it is there and not null. -/
def field (fields : Keyed Json) (name : String) (decode : Decoder α) :
    Except Mismatch (Option α) :=
  match Keyed.get? name fields with
  | none => .ok none
  | some j => optional decode j

/-- The item at a position, if it is not null; an array that is too short is refused. -/
def item (items : List Json) (position : Nat) (expected : String) (decode : Decoder α) :
    Except Mismatch (Option α) :=
  match items[position]? with
  | none => .error (.wrongLength position expected)
  | some j => optional decode j

end Decoder

end QueryBatch.Json
