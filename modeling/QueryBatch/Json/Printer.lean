import QueryBatch.Json.Basic

/-!
# JSON text

Two ways to write a value: compact, without any blank, and indented by two places for each level
of nesting. In strings the quote, the backslash and the controls below U+0020 are escaped, and
every other character stands for itself.

* `Json.compact`: the compact text.
* `Json.indented`: the indented text.
-/

namespace QueryBatch.Json

/-- A hexadecimal digit in lower case. -/
def hexDigit (n : Nat) : Char := (Nat.digitChar n)

/-- How one character is written in a string. -/
def escaped (c : Char) : List Char :=
  if c = '"' then ['\\', '"']
  else if c = '\\' then ['\\', '\\']
  else if c = '\n' then ['\\', 'n']
  else if c = '\r' then ['\\', 'r']
  else if c = '\t' then ['\\', 't']
  else if c.toNat = 8 then ['\\', 'b']
  else if c.toNat = 12 then ['\\', 'f']
  else if c.toNat < 32 then
    ['\\', 'u', '0', '0', hexDigit (c.toNat / 16), hexDigit (c.toNat % 16)]
  else [c]

/-- The characters of a string with its quotes. -/
def stringChars (s : String) : List Char :=
  '"' :: s.toList.flatMap escaped ++ ['"']

mutual

def compactChars : Json → List Char
  | .null => ['n', 'u', 'l', 'l']
  | .bool b => if b then ['t', 'r', 'u', 'e'] else ['f', 'a', 'l', 's', 'e']
  | .number n => n.text.toList
  | .string s => stringChars s
  | .array items => '[' :: compactItems items ++ [']']
  | .object fields => '\x7b' :: compactFields fields ++ ['\x7d']

/-- The items of an array with commas between them. -/
def compactItems : List Json → List Char
  | [] => []
  | [j] => compactChars j
  | j :: r => compactChars j ++ ',' :: compactItems r

/-- The fields of an object with commas between them. -/
def compactFields : List (String × Json) → List Char
  | [] => []
  | [(k, j)] => stringChars k ++ ':' :: compactChars j
  | (k, j) :: r => stringChars k ++ ':' :: compactChars j ++ ',' :: compactFields r

end

/-- **The compact text** of a value. -/
def compact (j : Json) : String := String.ofList j.compactChars

/-- The start of a line at a level of nesting. -/
def newLine (level : Nat) : List Char := '\n' :: List.replicate (2 * level) ' '

mutual

/-- The characters of the indented text at a level of nesting. -/
def indentedChars (level : Nat) : Json → List Char
  | .array (j :: r) => '[' :: indentedItems (level + 1) (j :: r) ++ newLine level ++ [']']
  | .object (p :: r) => '\x7b' :: indentedFields (level + 1) (p :: r) ++ newLine level ++ ['\x7d']
  | .array [] => ['[', ']']
  | .object [] => ['\x7b', '\x7d']
  | .null => ['n', 'u', 'l', 'l']
  | .bool b => if b then ['t', 'r', 'u', 'e'] else ['f', 'a', 'l', 's', 'e']
  | .number n => n.text.toList
  | .string s => stringChars s

/-- The items of an array, each on a line of its own. -/
def indentedItems (level : Nat) : List Json → List Char
  | [] => []
  | [j] => newLine level ++ indentedChars level j
  | j :: r => newLine level ++ indentedChars level j ++ ',' :: indentedItems level r

/-- The fields of an object, each on a line of its own. -/
def indentedFields (level : Nat) : List (String × Json) → List Char
  | [] => []
  | [(k, j)] => newLine level ++ stringChars k ++ [':', ' '] ++ indentedChars level j
  | (k, j) :: r =>
    newLine level ++ stringChars k ++ [':', ' '] ++ indentedChars level j ++
      ',' :: indentedFields level r

end

/-- **The indented text** of a value. -/
def indented (j : Json) : String := String.ofList (j.indentedChars 0)

end QueryBatch.Json
