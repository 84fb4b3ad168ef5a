import QueryBatch.Endpoint.Percent
import QueryBatch.Text.Split

/-!
# Paths

A path is a list of steps, each behind a slash. Two steps are not steps of their own: `.` stays
where it is, and `..` takes the last step back. A point may be written with a percent sign. The
first step of a path in a file system may be the letter of a drive, which is never taken back.

* `Path`: paths, and the texts that stand in their place where no slash begins them.
* `Path.ofChars`: reads a path.
* `Path.text`: its text.
-/

namespace QueryBatch.Endpoint

/-- **Paths.** -/
inductive Path
  /-- Text that is no list of steps. -/
  | plain (text : String)
  | steps (steps : List String)
deriving DecidableEq

namespace Path

/-- **The text of a path.** -/
def text : Path → String
  | .plain s => s
  | .steps l => String.join (l.map ("/" ++ ·))

/-- A step with its points written as points. -/
def dotted : List Char → List Char
  | [] => []
  | '%' :: '2' :: 'e' :: r => '.' :: dotted r
  | '%' :: '2' :: 'E' :: r => '.' :: dotted r
  | c :: r => c :: dotted r

/-- The letter of a drive behind which a mark stands. -/
def isDrive : List Char → Bool
  | [letter, mark] => letter.isAlpha && (mark == ':' || mark == '|')
  | _ => false

/-- Takes back the last step, which comes first here, unless it is a drive. -/
def back : List (List Char) → List (List Char)
  | [] => []
  | s :: r => if isDrive s then s :: r else r

/-- A step; the first one in a file system may be a drive, and the mark behind it is a colon. -/
def settled (isFile isFirst : Bool) (s : List Char) : List Char :=
  if isFile && isFirst && isDrive s then [s.headD ' ', ':'] else s

/-- Takes the steps one by one; `taken` are the steps so far, the last one first. A path that ends
in a step that is none of its own ends in a slash. -/
def walk (isFile : Bool) (taken : List (List Char)) : List (List Char) → List (List Char)
  | [] => taken.reverse
  | s :: r =>
    let stay (taken : List (List Char)) := if r.isEmpty then [] :: taken else taken
    if dotted s = ['.', '.'] then walk isFile (stay (back taken)) r
    else if dotted s = ['.'] then walk isFile (stay taken) r
    else walk isFile (settled isFile taken.isEmpty s :: taken) r

/-- The steps between marks; a mark in front of the first step need not be there. -/
def ofChars (isFile : Bool) (isMark : Char → Bool) (cs : List Char) : List (List Char) :=
  let relative := match cs with
    | c :: r => if isMark c then r else c :: r
    | [] => []
  walk isFile [] (Text.split isMark relative)

/-- Steps as they are written. -/
def ofSteps (steps : List (List Char)) : Path := .steps (steps.map (encode pathSpecials))

/-- Steps without the empty ones in front; one step stays. -/
def withoutEmptyFront (steps : List (List Char)) : List (List Char) :=
  match steps.dropWhile List.isEmpty with
  | [] => [[]]
  | l => l

end Path

end QueryBatch.Endpoint
