import TypedExtraction.Repetition.Form
import TypedExtraction.Repetition.Match

/-!
# Searching with expressions

A search takes an expression and an input. In the mode `anchored` the match
has to be at the front of the input, in the mode `scanning` it is the first
one that is found. An expression that cannot be parsed fails before the input
is looked at.
-/

namespace TypedExtraction.Repetition

open Text

inductive Mode where
  | anchored
  | scanning
  deriving DecidableEq, Repr

def matchIn? (r : Repetition) : Mode → Cursor → Option Match
  | .anchored, input => r.matchAt? input
  | .scanning, input => r.find? input

def matchIn (r : Repetition) (mode : Mode) (input : Cursor) : Except Failure Match :=
  match r.matchIn? mode input with
  | none => .error .noMatch
  | some m => .ok m

def search (mode : Mode) (expression input : Cursor) : Except Failure Match := do
  let r ← parse expression
  r.matchIn mode input

end TypedExtraction.Repetition
