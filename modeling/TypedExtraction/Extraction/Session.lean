import TypedExtraction.Extraction

/-!
# Sessions

A session keeps a row of slots from one step to the next. A step extracts into
some of the slots, in an order of its own, fills a single slot, or clears one.
Slots that a step does not name keep what they hold.
-/

namespace TypedExtraction.Session

open Text Extraction

/-- One step of a session; slots are named by their position. -/
inductive Step where
  | extract (template : Template) (input : Cursor) (slots : List Nat)
  | fill (slot : Nat) (input : Cursor)
  | clear (slot : Nat)

/-- The slots at some positions, in the order of the positions. -/
def select (slots : List Slot) (positions : List Nat) : List Slot :=
  positions.filterMap (slots[·]?)

def restore (slots : List Slot) : List Nat → List Slot → List Slot
  | i :: positions, s :: changed => restore (slots.set i s) positions changed
  | _, _ => slots

def report (slots : List Slot) (template : Template) (input : Cursor) (positions : List Nat) :
    Report :=
  TypedExtraction.extract template input (select slots positions)

def step (slots : List Slot) : Step → List Slot
  | .extract template input positions =>
    restore slots positions (report slots template input positions).slots
  | .fill i input => slots.modify i fun s => (s.fill input).1
  | .clear i => slots.modify i Slot.clear

def run (slots : List Slot) (steps : List Step) : List Slot := steps.foldl step slots

end TypedExtraction.Session
