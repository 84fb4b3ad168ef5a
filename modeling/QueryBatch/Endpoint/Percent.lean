import QueryBatch.Text.Hexadecimal

/-!
# Percent signs

A character that may not stand in a part of an endpoint is written as its bytes, each behind a
percent sign. Controls and what is beyond ASCII stand nowhere; which other characters do not depends
on the part.

* `Endpoint.encode`: text as it stands in a part.
* `Endpoint.decode`: the bytes that a text stands for.
-/

namespace QueryBatch.Endpoint

/-- A digit in capitals. -/
def capitalDigit (n : Nat) : Char := (Nat.digitChar n).toUpper

/-- The bytes of a character, each behind a percent sign. -/
def encodeChar (c : Char) : List Char :=
  c.toString.toUTF8.toList.flatMap fun b =>
    ['%', capitalDigit (b.toNat / 16), capitalDigit (b.toNat % 16)]

/-- **Text as it stands in a part** in which some characters may not stand. -/
def encode (others : String) (cs : List Char) : String :=
  String.ofList (cs.flatMap fun c =>
    if c.toNat < 32 || 126 < c.toNat || others.toList.contains c then encodeChar c else [c])

/-- The characters that are encoded in a fragment. -/
def fragmentSpecials : String := " \"<>\x60"

/-- The characters that are encoded in a path. -/
def pathSpecials : String := fragmentSpecials ++ "#?\x7b\x7d"

/-- The characters that are encoded in the name and the password of a user. -/
def userSpecials : String := pathSpecials ++ "/:;=@[\\]^|"

/-- The characters that are encoded in a query; a single quote is in some schemes. -/
def querySpecials (quotes : Bool) : String := if quotes then " \"#<>'" else " \"#<>"

/-- **The bytes that a text stands for.** -/
def decode : List Char → List UInt8
  | [] => []
  | '%' :: a :: b :: r =>
    match Text.hexValue? a, Text.hexValue? b with
    | some x, some y => (16 * x + y).toUInt8 :: decode r
    | _, _ => 37 :: decode (a :: b :: r)
  | c :: r => c.toString.toUTF8.toList ++ decode r

/-- The text that a text stands for, if its bytes are text. -/
def decodeText? (cs : List Char) : Option String := String.fromUTF8? ⟨(decode cs).toArray⟩

end QueryBatch.Endpoint
