import TypedExtraction.Text.Decimal
import TypedExtraction.Text.Quoted

/-!
# Readers

A `Reader` finds values of one type at the front of a text. `probe` tells how
many characters a value would take without building it, `read?` builds it;
`bounded?` lets the reader see no more than what it asked for. The readers here
are those of plain values: characters, quoted texts, integers of a width,
truth values, and the rest of the text.
-/

namespace TypedExtraction

open Text

/-- A way to find values at the front of a text. -/
structure Reader (α : Type) where
  /-- The number of characters of a value at the front, 0 if there is none. -/
  probe : Cursor → Nat
  /-- The value at the front. -/
  read? : Cursor → Option (Reading α)
  /-- Whether a value is whatever is left, even when nothing is. -/
  takesRest : Bool := false

namespace Reader

/-- Reads from no more than the characters that the probe asks for. -/
def bounded? {α : Type} (r : Reader α) (input : Cursor) : Option (Reading α) :=
  r.read? (input.limit (r.probe input))

def map {α β : Type} (f : α → β) (r : Reader α) : Reader β where
  probe := r.probe
  read? input := (r.read? input).map (Reading.map f)
  takesRest := r.takesRest

def char : Reader Char where
  probe input := if input.isEmpty then 0 else 1
  read? input := input.peek?.map fun c => ⟨c, 1⟩

def quoted (delimiter : Char) : Reader String where
  probe input := Reading.lengthOf (Quoted.scan? delimiter input)
  read? input := (Quoted.scan? delimiter input).map (Reading.map String.ofList)

/-- A run of digits, modulo `2 ^ width`. -/
def unsigned (width : Nat) : Reader (BitVec width) where
  probe := Decimal.digitRun
  read? input :=
    match Decimal.digitRun input with
    | 0 => none
    | n => some ⟨Decimal.wrapped width (input.limit n), n⟩

/-- A run of digits with an optional sign, modulo `2 ^ width`. -/
def signed (width : Nat) : Reader (BitVec width) where
  probe := Decimal.signedRun
  read? input :=
    match Decimal.signedRun input with
    | 0 => none
    | n => some ⟨Decimal.signedWrapped width (input.limit n), n⟩

def boolWord (b : Bool) : List Char :=
  if b then ['t', 'r', 'u', 'e'] else ['f', 'a', 'l', 's', 'e']

def bool : Reader Bool where
  probe input :=
    if input.startsWith (boolWord true) then (boolWord true).length
    else if input.startsWith (boolWord false) then (boolWord false).length
    else 0
  read? input :=
    if input.startsWith (boolWord true) then some ⟨true, (boolWord true).length⟩
    else if input.startsWith (boolWord false) then some ⟨false, (boolWord false).length⟩
    else none

def rest : Reader String where
  probe input := input.length
  read? input := some ⟨input.toText, input.length⟩
  takesRest := true

end Reader

end TypedExtraction
