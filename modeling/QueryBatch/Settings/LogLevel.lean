import QueryBatch.Number.Numeral

/-!
# Log levels

* `LogLevel.parse`: a level by its name in any case, or by its number from one to five.
-/

namespace QueryBatch

/-- **Log levels**, from the fewest messages to the most. -/
inductive LogLevel
  | error
  | warn
  | info
  | debug
  | trace
deriving DecidableEq, Inhabited

namespace LogLevel

/-- The levels in order; the first has the number one. -/
def levels : List LogLevel := [.error, .warn, .info, .debug, .trace]

def name : LogLevel → String
  | .error => "ERROR"
  | .warn => "WARN"
  | .info => "INFO"
  | .debug => "DEBUG"
  | .trace => "TRACE"

/-- The level with a number. -/
def ofNumber? : Nat → Option LogLevel
  | 0 => none
  | n + 1 => levels[n]?

/-- **The level of a text.** -/
def parse (s : String) : Option LogLevel :=
  match Numeral.count? levels.length s.toList with
  | some n => ofNumber? n
  | none => levels.find? fun l => l.name.toList == s.toList.map Char.toUpper

end LogLevel

end QueryBatch
