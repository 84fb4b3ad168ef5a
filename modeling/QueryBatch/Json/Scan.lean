import QueryBatch.Json.Number
import QueryBatch.Text.Hexadecimal

/-!
# Scanning JSON text

A scanner walks a text from left to right and stops at the first fault. A place in the text is a
line and a column, the column counting the bytes of the line that were read. A fault that is seen
in the next character before it is read is placed one byte further, behind that character's first
byte.

* `Json.Cursor`: the place reached and the characters left.
* `Json.Fault`: a cause and its place.
* `Json.Scan`: scanners. `Scan.peek?`, `Scan.skip`, `Scan.word`, `Scan.string`, `Scan.number`: the
  tokens.
-/

namespace QueryBatch.Json

/-- **Cursors**: the place reached in a text, and the characters left. -/
structure Cursor where
  rest : List Char
  line : Nat
  column : Nat

/-- What is wrong with a text. -/
inductive Cause
  | endInValue
  | endInList
  | endInObject
  | endInString
  | expectedColon
  | expectedCommaOrBracket
  | expectedCommaOrBrace
  | expectedWord
  | expectedValue
  | invalidEscape
  | invalidNumber
  | outOfRange
  | controlCharacter
  | keyNotString
  | loneSurrogate
  | hexEscapeEnds
  | trailingComma
  | trailingCharacters
  | tooDeep
  /-- A well-formed value that does not fit what is read from it. -/
  | misfit (message : String)
deriving DecidableEq

def Cause.message : Cause → String
  | .endInValue => "EOF while parsing a value"
  | .endInList => "EOF while parsing a list"
  | .endInObject => "EOF while parsing an object"
  | .endInString => "EOF while parsing a string"
  | .expectedColon => "expected `:`"
  | .expectedCommaOrBracket => "expected `,` or `]`"
  | .expectedCommaOrBrace => "expected `,` or `\x7d`"
  | .expectedWord => "expected ident"
  | .expectedValue => "expected value"
  | .invalidEscape => "invalid escape"
  | .invalidNumber => "invalid number"
  | .outOfRange => "number out of range"
  | .controlCharacter => "control character (\\u0000-\\u001F) found while parsing a string"
  | .keyNotString => "key must be a string"
  | .loneSurrogate => "lone leading surrogate in hex escape"
  | .hexEscapeEnds => "unexpected end of hex escape"
  | .trailingComma => "trailing comma"
  | .trailingCharacters => "trailing characters"
  | .tooDeep => "recursion limit exceeded"
  | .misfit message => message

/-- **Faults**: a cause and the place where it was found. -/
structure Fault where
  cause : Cause
  line : Nat
  column : Nat
deriving DecidableEq

def Fault.message (f : Fault) : String :=
  s!"{f.cause.message} at line {f.line} column {f.column}"

namespace Cursor

/-- The start of a text. -/
def start (s : String) : Cursor := ⟨s.toList, 1, 0⟩

def advance (c : Cursor) : Cursor :=
  match c.rest with
  | [] => c
  | x :: r => if x = '\n' then ⟨r, c.line + 1, 0⟩ else ⟨r, c.line, c.column + x.utf8Size⟩

/-- Past a number of characters. -/
def advanceBy : Nat → Cursor → Cursor
  | 0, c => c
  | n + 1, c => advanceBy n c.advance

/-- The line and column behind a number of bytes, which may end inside a character. -/
def placeAfter (bytes line column : Nat) : List Char → Nat × Nat
  | [] => (line, column)
  | x :: r =>
    if bytes < x.utf8Size then (line, column + bytes)
    else if x = '\n' then placeAfter (bytes - 1) (line + 1) 0 r
    else placeAfter (bytes - x.utf8Size) line (column + x.utf8Size) r

/-- A fault at the place reached. -/
def fault (c : Cursor) (cause : Cause) : Fault := ⟨cause, c.line, c.column⟩

/-- A fault seen in the next character. -/
def nextFault (c : Cursor) (cause : Cause) : Fault :=
  match c.rest with
  | [] => c.fault cause
  | x :: _ => if x = '\n' then ⟨cause, c.line + 1, 0⟩ else ⟨cause, c.line, c.column + 1⟩

end Cursor

/-- **Scanners**: they read from a cursor on and give a result or a fault. -/
abbrev Scan (α : Type) := StateT Cursor (Except Fault) α

namespace Scan

/-- Stops at the place reached. -/
def fail {α : Type} (cause : Cause) : Scan α := fun c => .error (c.fault cause)

/-- Stops because of the next character. -/
def failNext {α : Type} (cause : Cause) : Scan α := fun c => .error (c.nextFault cause)

/-- The next character, which is not read. -/
def peek? : Scan (Option Char) := fun c => .ok (c.rest.head?, c)

/-- Reads one character. -/
def skip : Scan Unit := fun c => .ok ((), c.advance)

/-- The number of characters left. -/
def left : Scan Nat := fun c => .ok (c.rest.length, c)

/-- Blanks of JSON text. -/
def isGap (c : Char) : Bool := c == ' ' || c == '\n' || c == '\t' || c == '\r'

/-- Reads blanks, and looks at the character behind them. -/
def pastGap? : Scan (Option Char) := fun c =>
  let c' := c.advanceBy (c.rest.takeWhile isGap).length
  .ok (c'.rest.head?, c')

/-- Reads the characters of a word whose first one was seen. -/
def word (cs : List Char) : Scan Unit := do
  match cs with
  | [] => pure ()
  | x :: r =>
    match ← peek? with
    | none => fail .endInValue
    | some y => if x = y then skip; word r else failNext .expectedWord

def digits : Scan (List Char) := fun c =>
  let ds := c.rest.takeWhile Char.isDigit
  .ok (ds, c.advanceBy ds.length)

/-! ### Strings -/

/-- Reads the four bytes of a hexadecimal escape. -/
def hexEscape : Scan Nat := fun c =>
  match (c.rest.take 4).map Text.hexValue? with
  | [some x, some y, some z, some w] => .ok (((x * 16 + y) * 16 + z) * 16 + w, c.advanceBy 4)
  | _ =>
    if (c.rest.take 4).foldl (fun bytes a => bytes + a.utf8Size) 0 < 4 then
      .error ((c.advanceBy 4).fault .endInString)
    else
      let place := Cursor.placeAfter 4 c.line c.column c.rest
      .error ⟨.invalidEscape, place.1, place.2⟩

/-- Reads one character that has to be the given one. -/
def escapeMark (x : Char) : Scan Unit := do
  match ← peek? with
  | none => fail .endInString
  | some y => if x = y then skip else failNext .hexEscapeEnds

/-- Reads what follows `\u`: a code point, or two surrogates that make one. -/
def codePoint : Scan Char := do
  let n ← hexEscape
  if 0xDC00 ≤ n ∧ n ≤ 0xDFFF then fail .loneSurrogate
  else if 0xD800 ≤ n ∧ n ≤ 0xDBFF then
    escapeMark '\\'
    escapeMark 'u'
    let m ← hexEscape
    if 0xDC00 ≤ m ∧ m ≤ 0xDFFF then
      pure (Char.ofNat ((n - 0xD800) * 0x400 + (m - 0xDC00) + 0x10000))
    else fail .loneSurrogate
  else pure (Char.ofNat n)

/-- The character that a backslash and a letter stand for. -/
def letterEscape? (c : Char) : Option Char :=
  match c with
  | '"' => some '"'
  | '\\' => some '\\'
  | '/' => some '/'
  | 'b' => some (Char.ofNat 8)
  | 'f' => some (Char.ofNat 12)
  | 'n' => some '\n'
  | 'r' => some '\r'
  | 't' => some '\t'
  | _ => none

/-- Reads what follows a backslash. -/
def escape : Scan Char := do
  match ← peek? with
  | none => fail .endInString
  | some 'u' => skip; codePoint
  | some x =>
    match letterEscape? x with
    | some y => skip; pure y
    | none => failNext .invalidEscape

/-- Reads a string behind its opening quote, for at most as many steps as there are characters
left; `read` are the characters read so far, last first. -/
def stringTail (fuel : Nat) (read : List Char) : Scan String := do
  match fuel with
  | 0 => fail .endInString
  | fuel + 1 =>
    match ← peek? with
    | none => fail .endInString
    | some '"' => skip; pure (String.ofList read.reverse)
    | some '\\' => skip; let x ← escape; stringTail fuel (x :: read)
    | some x =>
      skip
      if x.toNat < 32 then fail .controlCharacter else stringTail fuel (x :: read)

/-- Reads a string whose opening quote is the next character. -/
def string : Scan String := do
  skip
  stringTail ((← left) + 1) []

/-! ### Numbers -/

/-- Reads the digits in front of a point; a zero stands alone. -/
def wholeDigits : Scan (List Char) := do
  match ← peek? with
  | none => fail .endInValue
  | some '0' =>
    skip
    match ← peek? with
    | some x => if x.isDigit then failNext .invalidNumber else pure ['0']
    | none => pure ['0']
  | some x => if x.isDigit then digits else failNext .invalidNumber

/-- Reads a point and the digits behind it, if there is a point. -/
def fractionDigits? : Scan (Option (List Char)) := do
  match ← peek? with
  | some '.' =>
    skip
    let ds ← digits
    if ds.isEmpty then
      match ← peek? with
      | none => fail .endInValue
      | some _ => failNext .invalidNumber
    else pure (some ds)
  | _ => pure none

/-- The greatest exponent that is read digit by digit. -/
def maxExponent : Nat := Nat.pow 2 31 - 1

/-- Reads the digits of an exponent. A number other than zero whose exponent passes the limit
upwards is refused at the digit that passes it. -/
def exponentDigits (growing : Bool) : Scan Nat := fun c =>
  let ds := c.rest.takeWhile Char.isDigit
  let within := (List.range ds.length).filter fun n =>
    Numeral.value (ds.take (n + 1)) ≤ maxExponent
  if growing && within.length < ds.length then
    .error ((c.advanceBy (within.length + 1)).fault .outOfRange)
  else .ok (Numeral.value ds, c.advanceBy ds.length)

/-- Reads the letter `e` and an exponent, if there is one. -/
def exponent? (isZero : Bool) : Scan (Option Int) := do
  match ← peek? with
  | some x =>
    if x = 'e' ∨ x = 'E' then
      skip
      let sign ← peek?
      if sign = some '+' ∨ sign = some '-' then skip
      match ← peek? with
      | none => fail .endInValue
      | some y =>
        if y.isDigit then
          let n ← exponentDigits (sign != some '-' && !isZero)
          pure (some (if sign = some '-' then -(n : Int) else n))
        else failNext .invalidNumber
    else pure none
  | none => pure none

/-- Reads a number whose first character was seen. -/
def number : Scan Number := do
  let negative := (← peek?) == some '-'
  if negative then skip
  let whole ← wholeDigits
  let fraction ← fractionDigits?
  let isZero := (Literal.significand ⟨negative, whole, fraction, none⟩).1 == 0
  let exponent ← exponent? isZero
  match (Literal.mk negative whole fraction exponent).number? with
  | some n => pure n
  | none => fail .outOfRange

end Scan

end QueryBatch.Json
