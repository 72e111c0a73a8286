import TypedExtraction.Extraction
import TypedExtraction.Repetition

/-!
# Forms of expressions

The expression of a repetition has one of three forms: it gives both bounds,
or only the minimum, or only the maximum. Each form is a template, and an
expression is read by extracting a class list and the bounds with it.
`parse` tries the forms one after the other.
-/

namespace TypedExtraction.Repetition

open Text Extraction

inductive Form where
  | bothBounds
  | onlyMin
  | onlyMax
  deriving DecidableEq, Repr

namespace Form

/-- The forms in the order in which they are tried. -/
def all : List Form := [.bothBounds, .onlyMin, .onlyMax]

/-- The text of a form, a joker for each part. -/
def template : Form → Template
  | .bothBounds => ⟨"{$:$:$}", '$'⟩
  | .onlyMin => ⟨"{$:$:}", '$'⟩
  | .onlyMax => ⟨"{$::$}", '$'⟩

def boundType : ValueType := .unsigned 64

def slots (f : Form) : List Slot :=
  match f with
  | .bothBounds => [.empty .classList, .empty boundType, .empty boundType]
  | .onlyMin | .onlyMax => [.empty .classList, .empty boundType]

/-- What comes of extracting the parts of a form. -/
def report (f : Form) (input : Cursor) : Report := extract f.template input f.slots

/-- The minimum and the maximum, from the bounds that an expression gives. -/
def bounds (f : Form) (given : List Nat) : Option (Nat × Nat) :=
  match f, given with
  | .bothBounds, [min, max] => some (min, max)
  | .onlyMin, [min] => some (min, unbounded)
  | .onlyMax, [max] => some (0, max)
  | _, _ => none

/-- The members and the bounds of an expression of a form. -/
def read? (f : Form) (input : Cursor) : Option (List Member × Nat × Nat) :=
  let report := f.report input
  if report.outcome.isOk then
    match report.slots with
    | [] => none
    | list :: given => do
      let members ← list.get? .classList
      let given ← given.mapM (·.get? boundType)
      let (min, max) ← f.bounds (given.map BitVec.toNat)
      return (members, min, max)
  else none

end Form

def readForms? (forms : List Form) (input : Cursor) : Option (List Member × Nat × Nat) :=
  forms.findSome? (·.read? input)

/-- The repetition that an expression of one of some forms stands for. -/
def parseForms (forms : List Form) (input : Cursor) : Except Failure Repetition :=
  match readForms? forms input with
  | none => .error .malformed
  | some (members, min, max) => ofBounds members min max

def parse (input : Cursor) : Except Failure Repetition := parseForms Form.all input

end TypedExtraction.Repetition
