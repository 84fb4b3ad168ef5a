import QueryBatch.Json.Decode
import QueryBatch.Json.Reader

/-!
# Records

A record has named parts that all have defaults. It is written as an object, where unknown fields
are ignored, or as an array of its parts in order, where parts at the end may be left out. A
record is read either from a JSON value or, with the place of each mismatch, straight from a text.

* `Json.Part`: a part of a record, with both ways to read it.
* `Json.Record.decode`: a record from a JSON value.
* `Json.Record.scan`: a record from a text.
-/

namespace QueryBatch.Json

/-- **Parts** of a record of type `σ`. What is read is a change of the record. -/
structure Part (σ : Type) where
  name : String
  decode : Decoder (σ → σ)
  scan : Scan (σ → σ)

/-- A part that is no record itself: its value is decoded at once, also from a text. -/
def Part.leaf {σ α : Type} (name : String) (decoder : Decoder α) (set : α → σ → σ) :
    Part σ where
  name := name
  decode j := (decoder j).map set
  scan := do
    match decoder (← Scan.scalar) with
    | .ok a => pure (set a)
    | .error e => Scan.fail (.misfit e.message)

namespace Record

variable {σ : Type}

/-- Reads the fields of an object into a record, in the order of their names. -/
def decodeFields (parts : List (Part σ)) (record : σ) :
    List (String × Json) → Except Mismatch σ
  | [] => .ok record
  | (name, j) :: r =>
    match parts.find? fun p => p.name == name with
    | none => decodeFields parts record r
    | some p => do
      let set ← p.decode j
      decodeFields parts (set record) r

/-- Reads the items of an array into a record, as far as both go. -/
def decodeItems (record : σ) : List (Part σ) → List Json → Except Mismatch σ
  | p :: parts, j :: r => do
    let set ← p.decode j
    decodeItems (set record) parts r
  | _, _ => .ok record

/-- **A record from a JSON value**; `defaults` holds the parts that are not given. -/
def decode (type : String) (parts : List (Part σ)) (defaults : σ) : Decoder σ
  | .object fields => decodeFields parts defaults fields
  | .array items => do
    let record ← decodeItems defaults parts items
    if items.length > parts.length then
      throw (.wrongLength items.length "fewer elements in array")
    pure record
  | j => .error (.wrongType j s!"struct {type}")

/-- Stops at a field that is given twice. The place is behind the key and the blanks after it, and
behind the closing brace if that follows. -/
def failDuplicate {α : Type} (name : String) : Scan α := do
  if (← Scan.pastGap?) = some '\x7d' then Scan.skip
  Scan.fail (.misfit (Mismatch.duplicateField name).message)

/-- Reads the fields of an object into a record, for at most as many steps as there are characters
left. `seen` are the names of the parts that were given. -/
def scanFields (parts : List (Part σ)) (fuel : Nat) (seen : List String) (record : σ) :
    Scan σ := do
  match fuel with
  | 0 => Scan.fail .endInObject
  | fuel + 1 =>
    if ← Scan.nextKey? seen.isEmpty then
      let name ← Scan.string
      match parts.find? fun p => p.name == name with
      | none =>
        Scan.colon
        Scan.skipValue
        scanFields parts fuel (name :: seen) record
      | some p =>
        if seen.contains name then failDuplicate name
        else
          Scan.colon
          let set ← p.scan
          scanFields parts fuel (name :: seen) (set record)
    else pure record

/-- Reads the items of an array into a record, as far as both go. -/
def scanItems (record : σ) (first : Bool) : List (Part σ) → Scan σ
  | [] => pure record
  | p :: parts => do
    if ← Scan.nextItem? first then
      let set ← p.scan
      scanItems (set record) false parts
    else pure record

/-- **A record from a text**; `defaults` holds the parts that are not given. -/
def scan (type : String) (parts : List (Part σ)) (defaults : σ) : Scan σ := do
  match ← Scan.scalar with
  | .object _ =>
    Scan.skip
    let record ← scanFields parts ((← Scan.left) + 1) [] defaults
    Scan.endObject
    pure record
  | .array _ =>
    Scan.skip
    let record ← scanItems defaults true parts
    Scan.endList
    pure record
  | j => Scan.fail (.misfit (Mismatch.wrongType j s!"struct {type}").message)

end Record

end QueryBatch.Json
