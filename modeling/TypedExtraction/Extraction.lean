import TypedExtraction.Journal
import TypedExtraction.Outcome
import TypedExtraction.Slot
import TypedExtraction.Template

/-!
# Extraction

`extract` reads the values for a row of slots out of an input, as a template
tells. Template and input are walked together: a character of the template
must be the next character of the input, and each joker hands what is left of
the input to the next slot. Nothing is ever tried again, so the first cause of
failure is the outcome. On any outcome but success every slot is left empty.
-/

namespace TypedExtraction

open Text

namespace Extraction

/-- What happens to slots on the way. -/
inductive Event where
  /-- A slot took a value of some length. -/
  | consumed (slot length : Nat)
  /-- A slot found no value in an input of some length. -/
  | rejected (slot remaining : Nat)
  /-- The extraction came to an end without success. -/
  | failed (template : String) (outcome : Outcome)
  deriving DecidableEq, Repr

def Event.record : Event → Record
  | .consumed slot length =>
    ⟨.trace, "patex::driver", "slot " ++ toString slot ++ " consumed " ++ toString length⟩
  | .rejected slot remaining =>
    ⟨.debug, "patex::driver",
      "slot " ++ toString slot ++ " rejected input at " ++ toString remaining ++ " remaining"⟩
  | .failed template outcome =>
    ⟨.debug, "patex::driver",
      "extract " ++ Escaped.ofString template ++ ": " ++ outcome.name⟩

/-- How an extraction ended, its slots, and what happened on the way. -/
structure Report where
  outcome : Outcome
  slots : List Slot
  events : List Event

/-- Matches the literal characters of a template up to its next joker or its end, and gives what is
left of template and input behind them. -/
def matchLiterals (joker : Char) : List Char → Cursor → Except Outcome (List Char × Cursor)
  | [], input => .ok ([], input)
  | p :: template, input =>
    if p = joker then .ok (template, input)
    else
      match input with
      | [] => .error .templateRemains
      | c :: input =>
        if c = p then matchLiterals joker template input else .error .literalMismatch

/-- Walks through template and input from one slot to the next. -/
def run (joker : Char) (index : Nat) : List Slot → List Char → Cursor → Report
  | [], template, input =>
    match matchLiterals joker template input with
    | .error outcome => ⟨outcome, [], []⟩
    | .ok (_, []) => ⟨.ok, [], []⟩
    | .ok (_, _ :: _) => ⟨.inputRemains, [], []⟩
  | slot :: slots, template, input =>
    match matchLiterals joker template input with
    | .error outcome => ⟨outcome, slot :: slots, []⟩
    | .ok (template, input) =>
      if input.isEmpty && !slot.isTail then ⟨.inputExhausted, slot :: slots, []⟩
      else
        let filled := (slot.fill input).1
        let length := (slot.fill input).2
        if length = 0 && !slot.isTail then
          ⟨.unreadableValue, filled :: slots, [.rejected index input.length]⟩
        else
          let more := run joker (index + 1) slots template (input.advance length)
          ⟨more.outcome, filled :: more.slots, .consumed index length :: more.events⟩

/-- A failed extraction empties its slots and says why it failed. -/
def Report.settle (template : Template) (r : Report) : Report :=
  if r.outcome.isOk then r
  else ⟨r.outcome, r.slots.map Slot.clear, r.events ++ [.failed template.text r.outcome]⟩

end Extraction

open Extraction

def extract (template : Template) (input : Cursor) (slots : List Slot) : Report :=
  let report : Report :=
    if template.jokerCount < slots.length then ⟨.tooFewJokers, slots, []⟩
    else if slots.length < template.jokerCount then ⟨.tooManyJokers, slots, []⟩
    else run template.joker 0 slots template.chars input
  report.settle template

def extractKinds (template : Template) (input : Cursor) (kinds : List Kind) : Report :=
  extract template input (kinds.map fun kind => .empty (.dynamic kind))

end TypedExtraction
