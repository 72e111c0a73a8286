import TypedExtraction.Repetition.Search
import TypedExtraction.Template

/-!
# Commands

What the user of the program asks for: to extract values from an input, or to
search it for a repetition. The input is a file, or the standard input.
-/

namespace TypedExtraction.CommandLine

inductive Source where
  | standardInput
  | file (path : String)
  deriving DecidableEq, Repr

/-- The name of a source in messages. -/
def Source.name : Source → String
  | .standardInput => "stdin"
  | .file path => path

inductive Command where
  /-- Extract values of the kinds with some names. -/
  | extract (template : Template) (kindNames : List String) (source : Source)
  /-- Search for a match of an expression. -/
  | search (expression : String) (mode : Repetition.Mode) (source : Source)
  deriving DecidableEq, Repr

end TypedExtraction.CommandLine
