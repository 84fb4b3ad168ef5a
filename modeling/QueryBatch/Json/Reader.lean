import QueryBatch.Json.Basic
import QueryBatch.Json.Scan

/-!
# Reading JSON text

A value is read in one pass, and at most 127 arrays and objects may be open at once. Values that
nobody asked for are skipped by a second, laxer reader, which knows no limit of depth and does not
look into numbers and escapes.

* `Json.read`: the value of a text, or its first fault.
* `Json.Scan.value`: reads a value; `Json.Scan.skipValue`: skips one.
* `Json.Scan.nextItem?`, `nextKey?`, `endList`, `endObject`: the marks between items and fields.
-/

namespace QueryBatch.Json

namespace Scan

/-- Reads a value that is neither array nor object. For an array or an object, which is left
unread, the empty one is given. -/
def scalar : Scan Json := do
  match ← pastGap? with
  | none => fail .endInValue
  | some x =>
    if x = 'n' then do skip; word ['u', 'l', 'l']; pure .null
    else if x = 't' then do skip; word ['r', 'u', 'e']; pure (.bool true)
    else if x = 'f' then do skip; word ['a', 'l', 's', 'e']; pure (.bool false)
    else if x = '"' then return .string (← string)
    else if x = '[' then pure (.array [])
    else if x = '\x7b' then pure (.object [])
    else if x = '-' ∨ x.isDigit then return .number (← number)
    else failNext .expectedValue

/-- Looks for the next item of an array, behind a comma unless it is the first. -/
def nextItem? (first : Bool) : Scan Bool := do
  match ← pastGap? with
  | none => fail .endInList
  | some x =>
    if x = ']' then pure false
    else if first then pure true
    else if x = ',' then
      skip
      match ← pastGap? with
      | none => fail .endInValue
      | some y => if y = ']' then failNext .trailingComma else pure true
    else failNext .expectedCommaOrBracket

/-- Looks for the next key of an object, behind a comma unless it is the first. -/
def nextKey? (first : Bool) : Scan Bool := do
  match ← pastGap? with
  | none => fail .endInObject
  | some x =>
    if x = '\x7d' then pure false
    else if first then
      if x = '"' then pure true else failNext .keyNotString
    else if x = ',' then
      skip
      match ← pastGap? with
      | none => fail .endInValue
      | some y =>
        if y = '"' then pure true
        else if y = '\x7d' then failNext .trailingComma
        else failNext .keyNotString
    else failNext .expectedCommaOrBrace

def colon : Scan Unit := do
  match ← pastGap? with
  | none => fail .endInObject
  | some x => if x = ':' then skip else failNext .expectedColon

def endList : Scan Unit := do
  match ← pastGap? with
  | none => fail .endInList
  | some x =>
    if x = ']' then skip
    else if x = ',' then
      skip
      if (← pastGap?) = some ']' then failNext .trailingComma else failNext .trailingCharacters
    else failNext .trailingCharacters

def endObject : Scan Unit := do
  match ← pastGap? with
  | none => fail .endInObject
  | some x =>
    if x = '\x7d' then skip
    else if x = ',' then failNext .trailingComma
    else failNext .trailingCharacters

/-- Reads the items of an array behind its bracket, for at most as many steps as there are
characters left. -/
def items {α : Type} (item : Scan α) (fuel : Nat) (first : Bool) : Scan (List α) := do
  match fuel with
  | 0 => fail .endInList
  | fuel + 1 =>
    if ← nextItem? first then
      let a ← item
      return a :: (← items item fuel false)
    else pure []

/-- Reads the fields of an object behind its brace, for at most as many steps as there are
characters left. -/
def fields (item : Scan Json) (fuel : Nat) (first : Bool) : Scan (List (String × Json)) := do
  match fuel with
  | 0 => fail .endInObject
  | fuel + 1 =>
    if ← nextKey? first then
      let k ← string
      colon
      let j ← item
      return (k, j) :: (← fields item fuel false)
    else pure []

/-- Reads a value in which fewer arrays and objects than the given number may be open at once. -/
def value : Nat → Scan Json
  | 0 => failNext .tooDeep
  | depth + 1 => do
    match ← scalar with
    | .array _ =>
      if depth = 0 then failNext .tooDeep
      else
        skip
        let l ← items (value depth) ((← left) + 1) true
        endList
        pure (.array l)
    | .object _ =>
      if depth = 0 then failNext .tooDeep
      else
        skip
        let l ← fields (value depth) ((← left) + 1) true
        endObject
        pure (.ofFields l)
    | j => pure j

/-- Makes sure that only blanks are left. -/
def finish : Scan Unit := do
  match ← pastGap? with
  | none => pure ()
  | some _ => failNext .trailingCharacters

/-! ### Skipping -/

/-- What is open while a value is skipped. -/
inductive Frame
  | list
  | object

/-- The mark that closes what is open. -/
def Frame.closing : Frame → Char
  | .list => ']'
  | .object => '\x7d'

/-- The text ends while it is open. -/
def Frame.ends : Frame → Cause
  | .list => .endInList
  | .object => .endInObject

/-- Neither a comma nor the closing mark follows an item. -/
def Frame.unseparated : Frame → Cause
  | .list => .expectedCommaOrBracket
  | .object => .expectedCommaOrBrace

/-- Skips a string behind its opening quote. -/
def skipStringTail (fuel : Nat) : Scan Unit := do
  match fuel with
  | 0 => fail .endInString
  | fuel + 1 =>
    match ← peek? with
    | none => fail .endInString
    | some '"' => skip
    | some '\\' =>
      skip
      match ← peek? with
      | none => fail .endInString
      | some 'u' => skip; discard hexEscape
      | some x => if (letterEscape? x).isSome then skip else failNext .invalidEscape
      skipStringTail fuel
    | some x =>
      if x.toNat < 32 then fail .controlCharacter
      else
        skip
        skipStringTail fuel

/-- Skips a string whose opening quote is the next character. -/
def skipString : Scan Unit := do
  skip
  skipStringTail ((← left) + 1)

/-- Skips the letter `e` and an exponent, if there is one. -/
def skipExponent : Scan Unit := do
  let mark ← peek?
  if mark = some 'e' ∨ mark = some 'E' then
    skip
    let sign ← peek?
    if sign = some '+' ∨ sign = some '-' then skip
    if (← digits).isEmpty then failNext .invalidNumber

/-- Skips a number whose first character was seen. -/
def skipNumber : Scan Unit := do
  if (← peek?) = some '-' then skip
  if (← peek?) = some '0' then
    skip
    if ((← peek?).map Char.isDigit) = some true then failNext .invalidNumber
  else if (← digits).isEmpty then failNext .invalidNumber
  if (← peek?) = some '.' then
    skip
    if (← digits).isEmpty then failNext .invalidNumber
  skipExponent

/-- Skips a scalar, or the opening mark of an array or object, which is then given. -/
def skipToken : Scan (Option Frame) := do
  match ← pastGap? with
  | none => fail .endInValue
  | some x =>
    if x = 'n' then do skip; word ['u', 'l', 'l']; pure none
    else if x = 't' then do skip; word ['r', 'u', 'e']; pure none
    else if x = 'f' then do skip; word ['a', 'l', 's', 'e']; pure none
    else if x = '"' then do skipString; pure none
    else if x = '[' then do skip; pure (some .list)
    else if x = '\x7b' then do skip; pure (some .object)
    else if x = '-' ∨ x.isDigit then do skipNumber; pure none
    else failNext .expectedValue

/-- Skips closing marks up to the next item of something open, and gives what is still open. -/
def skipClosing (afterItem : Bool) : List Frame → Scan (List Frame)
  | [] => pure []
  | f :: r => do
    match ← pastGap? with
    | none => fail f.ends
    | some x =>
      if x = ',' ∧ afterItem = true then skip; pure (f :: r)
      else if x = f.closing then skip; skipClosing true r
      else if afterItem then failNext f.unseparated
      else pure (f :: r)

/-- Skips a key and its colon. -/
def skipKey : Scan Unit := do
  match ← pastGap? with
  | none => fail .endInObject
  | some x =>
    if x = '"' then skipString; colon else failNext .keyNotString

/-- Skips a value inside what is open, and everything up to the end of what is open, for at most
as many steps as there are characters left. -/
def skipOpen (fuel : Nat) (opened : List Frame) : Scan Unit := do
  match fuel with
  | 0 => fail .endInValue
  | fuel + 1 =>
    let left ← match ← skipToken with
      | some f => skipClosing false (f :: opened)
      | none => skipClosing true opened
    match left with
    | [] => pure ()
    | .list :: _ => skipOpen fuel left
    | .object :: _ => skipKey; skipOpen fuel left

/-- Skips a value of any depth. -/
def skipValue : Scan Unit := do
  skipOpen ((← left) + 1) []

end Scan

/-- The number of arrays and objects that may not be open at once. -/
def depthLimit : Nat := 128

/-- What a scanner gives for a whole text. -/
def readWith {α : Type} (scan : Scan α) (s : String) : Except Fault α := do
  let (a, c) ← scan.run (.start s)
  let _ ← Scan.finish.run c
  pure a

/-- **The value of a text**, or the first fault in it. -/
def read (s : String) : Except Fault Json := readWith (Scan.value depthLimit) s

end QueryBatch.Json
