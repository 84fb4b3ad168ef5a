import QueryBatch.Domain.Direction
import QueryBatch.Domain.Joiner
import QueryBatch.Domain.Mapping
import QueryBatch.Domain.Punycode
import QueryBatch.Text.Composed
import QueryBatch.Text.Joined

/-!
# Domain names

A domain name is a list of labels with points between them. It may be written with the characters of
any script; the name itself is in ASCII, where a label with other characters starts with `xn--` and
goes on in Punycode.

* `Domain.ascii?`: the name in ASCII, if the text is one.
* `Domain.Label`: a label as it is read and as it stands in the name.
-/

namespace QueryBatch.Domain

open Text

/-- Characters of ASCII that stand in no name. -/
def isForbidden (c : Char) : Bool :=
  c.toNat ≤ 32 || c.toNat == 127 || "%#/:<>?@[\\]^|".toList.contains c

def isAscii (c : Char) : Bool := c.toNat < 128

/-- The mark of labels in Punycode. -/
def codedMark : List Char := ['x', 'n', '-', '-']

/-- **Labels.** -/
structure Label where
  /-- The characters that a reader sees. -/
  shown : List Char
  /-- What stands in the name. -/
  ascii : List Char

namespace Label

/-- The characters of a label go together: it starts with no mark, and its joiners make a
difference. A label beyond ASCII has at most 1000 characters. -/
def isSound (shown : List Char) : Bool :=
  !(shown.head?.map isMark).getD false && keepsJoiners shown &&
    (shown.all isAscii || shown.length ≤ 1000)

/-- A label in Punycode; it must not be possible to write it in another way. -/
def ofCoded? (cs : List Char) : Option Label := do
  let code := cs.drop codedMark.length
  if !code.all isAscii || cs.getLast? = some '-' || 2000 < code.length then none
  let shown ← Punycode.decode code
  if shown.all isSettled && composed shown == shown && isSound shown then some ⟨shown, cs⟩ else none

/-- The label of some characters that stand for themselves. -/
def ofChars? (cs : List Char) : Option Label :=
  if codedMark.isPrefixOf cs then ofCoded? cs
  else if !isSound cs then none
  else some ⟨cs, if cs.all isAscii then cs else codedMark ++ Punycode.encode cs⟩

end Label

/-- The characters that a text stands for as a name. -/
def foldedText? (cs : List Char) : Option (List Char) :=
  (cs.mapM folded?).map fun l => composed l.flatten

/-- The labels of a text. If one of them holds what is written from the right to the left, each one
keeps to one direction. -/
def labels? (cs : List Char) : Option (List Label) := do
  let folded ← foldedText? cs
  if folded.any isForbidden then none
  let labels ← (split (· == '.') folded).mapM Label.ofChars?
  let shown := labels.map Label.shown
  if shown.any hasRightToLeft && !shown.all keepsDirection then none else some labels

/-- **The name in ASCII**, if the text is a domain name. -/
def ascii? (cs : List Char) : Option String :=
  (labels? cs).map fun labels => joined "." (labels.map fun l => String.ofList l.ascii)

end QueryBatch.Domain
