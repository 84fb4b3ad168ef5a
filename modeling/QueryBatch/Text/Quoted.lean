import QueryBatch.Text.Graphic
import QueryBatch.Text.Hexadecimal

/-!
# Quoted text

Messages show a text between double quotes in a form that is unambiguous and stays on one line:
the quote and the backslash are escaped, the usual control characters have their letter, and any
other character that is not graphic is written as `\u` with its code point in braces. The single
quote stands for itself.
-/

namespace QueryBatch.Text

/-- How one character is written between quotes. -/
def quotedChar (c : Char) : List Char :=
  if c = '"' then ['\\', '"']
  else if c = '\\' then ['\\', '\\']
  else if c = '\n' then ['\\', 'n']
  else if c = '\r' then ['\\', 'r']
  else if c = '\t' then ['\\', 't']
  else if c = Char.ofNat 0 then ['\\', '0']
  else if isGraphic c then [c]
  else ['\\', 'u', '\x7b'] ++ hexDigits c.toNat ++ ['\x7d']

def quoted (s : String) : String :=
  String.ofList (['"'] ++ s.toList.flatMap quotedChar ++ ['"'])

end QueryBatch.Text
