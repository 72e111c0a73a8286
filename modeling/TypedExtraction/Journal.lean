/-!
# Journal records

What the library does along the way is told in records. A record has a level,
the part of the program that wrote it, and a text; `Record.line` is the line
in which it is shown.
-/

namespace TypedExtraction

inductive Level where
  | debug
  | trace
  deriving DecidableEq, Repr

def Level.name : Level → String
  | .debug => "DEBUG"
  | .trace => "TRACE"

/-- Whether a level is shown: the more is to be told, the more detail there is. -/
def Level.isShown (verbosity : Nat) : Level → Bool
  | .debug => 1 ≤ verbosity
  | .trace => 2 ≤ verbosity

structure Record where
  level : Level
  origin : String
  text : String
  deriving DecidableEq, Repr

def Record.line (r : Record) : String := r.level.name ++ " " ++ r.origin ++ ": " ++ r.text

end TypedExtraction
