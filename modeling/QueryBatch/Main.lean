import QueryBatch.CommandLine

/-!
# The program

Reads the files that the arguments name, and prints what the command line asks for.
-/

namespace QueryBatch.CommandLine

/-- What a failed attempt to read a file means. The path is told if a step of it is no directory. -/
def fileErrorOf : IO.Error → FileError
  | .inappropriateType (some _) _ _ => .notDirectory
  | .inappropriateType none _ _ => .isDirectory
  | .invalidArgument (some _) _ _ => .nameTooLong
  | .permissionDenied _ _ _ => .denied
  | _ => .missing

def readText (path : String) : IO (Except FileError String) := do
  try
    let bytes ← IO.FS.readBinFile path
    match String.fromUTF8? bytes with
    | some s => return .ok s
    | none => return .error .notText
  catch e => return .error (fileErrorOf e)

/-- The paths that a request names. -/
def pathsOf : Option Request → List String
  | some (.translate file settings) => file :: settings.toList
  | _ => []

/-- The files that some arguments name, read beforehand. -/
def readFiles (args : List String) : IO Files := do
  let texts ← (pathsOf (parse args)).mapM fun p => do return (p, ← readText p)
  return fun p => (texts.lookup p).getD (.error .missing)

end QueryBatch.CommandLine

open QueryBatch in
/-- Runs the program. -/
def main (args : List String) : IO UInt32 := do
  let files ← CommandLine.readFiles args
  let result := CommandLine.run files args
  IO.print result.output
  match result.failure with
  | some message => IO.eprintln message
  | none => pure ()
  return result.code.toUInt32
