import TypedExtraction.Text.Cursor

/-!
# Banks of cursors

A `Bank` is a row of cursors over one text, named by their position. A `Step`
makes one `Move`: `next` and `nth` read from the source cursor and move it,
`limit`, `advance` and `copy` put what they make of the source into the
target. No step touches any other cursor.
-/

namespace TypedExtraction.Text

/-- What a step does with its source cursor. -/
inductive Move where
  | next
  | nth (n : Nat)
  | limit (n : Nat)
  | advance (n : Nat)
  | copy
  deriving DecidableEq, Repr

/-- One move between two cursors of a bank. -/
structure Step where
  move : Move
  source : Nat
  target : Nat
  deriving DecidableEq, Repr

abbrev Bank := List Cursor

namespace Bank

def start (size : Nat) (text : Cursor) : Bank := List.replicate size text

/-- The cursor at a position; where there is none, an empty one. -/
def cursor (bank : Bank) (i : Nat) : Cursor := bank.getD i []

/-- The character a step reads, if it reads one, and the bank after it. -/
def step (bank : Bank) (s : Step) : Option Char × Bank :=
  let source := bank.cursor s.source
  match s.move with
  | .next => (source.next.1, bank.set s.source source.next.2)
  | .nth n => ((source.nth n).1, bank.set s.source (source.nth n).2)
  | .limit n => (none, bank.set s.target (source.limit n))
  | .advance n => (none, bank.set s.target (source.advance n))
  | .copy => (none, bank.set s.target source)

def run (bank : Bank) (steps : List Step) : Bank :=
  steps.foldl (fun b s => (b.step s).2) bank

end Bank

end TypedExtraction.Text
