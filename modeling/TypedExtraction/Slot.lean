import TypedExtraction.Member
import TypedExtraction.Value

/-!
# Slots

A `ValueType` says what a slot can hold: a type fixed in advance, or with
`dynamic` any value of a kind that is chosen while the program runs. Each type
has its reader. A `Slot` is a place for one value; `Slot.fill` reads a value
into it, `Slot.clear` empties it.
-/

namespace TypedExtraction

open Text

inductive ValueType where
  | char
  | string
  | unsigned (width : Nat)
  | signed (width : Nat)
  | bool
  | tail
  | literal
  | interval
  | classList
  | dynamic (kind : Kind)
  deriving DecidableEq, Repr

namespace ValueType

abbrev Carrier : ValueType → Type
  | .char => Char
  | .string => String
  | .unsigned width => BitVec width
  | .signed width => BitVec width
  | .bool => Bool
  | .tail => String
  | .literal => String
  | .interval => Char × Char
  | .classList => List Member
  | .dynamic _ => Value

def reader : (t : ValueType) → Reader t.Carrier
  | .char => Reader.char
  | .string => Reader.quoted '"'
  | .unsigned width => Reader.unsigned width
  | .signed width => Reader.signed width
  | .bool => Reader.bool
  | .tail => Reader.rest
  | .literal => Reader.quoted '\''
  | .interval => Member.intervalReader
  | .classList => Member.listReader
  | .dynamic kind => kind.reader

end ValueType

structure Slot where
  type : ValueType
  content : Option type.Carrier

namespace Slot

def empty (type : ValueType) : Slot := ⟨type, none⟩

def isFull (s : Slot) : Bool := s.content.isSome

/-- Whether a slot takes all that is left of the text. -/
def isTail (s : Slot) : Bool := s.type.reader.takesRest

/-- A slot for values of a chosen kind is a tail just where this is the kind of tails. -/
theorem isTail_dynamic_iff {kind : Kind} {content : Option Value} :
    isTail ⟨.dynamic kind, content⟩ = true ↔ kind = .tail := by
  show kind.reader.takesRest = true ↔ kind = .tail
  cases kind <;> decide

def clear (s : Slot) : Slot := empty s.type

/-- The slot with what its reader finds at the front, and the length of that; without a value the
slot is left empty and the length is 0. -/
def fill (s : Slot) (input : Cursor) : Slot × Nat :=
  let found := s.type.reader.bounded? input
  (⟨s.type, found.map Reading.value⟩, Reading.lengthOf found)

/-- The content of a slot, if it has the given type and is full. -/
def get? (type : ValueType) (s : Slot) : Option type.Carrier :=
  if h : s.type = type then h ▸ s.content else none

/-- The content of a slot for values of a chosen kind. -/
def value? : Slot → Option Value
  | ⟨.dynamic _, content⟩ => content
  | _ => none

@[simp] theorem type_clear (s : Slot) : s.clear.type = s.type := rfl

@[simp] theorem type_fill (s : Slot) (input : Cursor) : (s.fill input).1.type = s.type := rfl

@[simp] theorem isTail_clear (s : Slot) : s.clear.isTail = s.isTail := rfl

end Slot

end TypedExtraction
