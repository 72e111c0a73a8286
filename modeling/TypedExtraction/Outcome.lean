/-!
# Outcomes of an extraction

An extraction is `ok` or fails for one cause. Each outcome has a name and a
message; the names and messages are what users of the program see.
-/

namespace TypedExtraction

inductive Outcome where
  /-- Every slot has its value, and nothing is left of template or input. -/
  | ok
  /-- The input differs from a character of the template. -/
  | literalMismatch
  /-- No value of the slot's type stands where the slot's joker is. -/
  | unreadableValue
  /-- Nothing is left of the input for a slot that needs a value. -/
  | inputExhausted
  /-- Something is left of the input behind the end of the template. -/
  | inputRemains
  /-- Nothing is left of the input for a character of the template. -/
  | templateRemains
  /-- There are fewer jokers than slots. -/
  | tooFewJokers
  /-- There are more jokers than slots. -/
  | tooManyJokers
  deriving DecidableEq, Repr

namespace Outcome

/-- The name of an outcome in the journal. -/
def name : Outcome → String
  | .ok => "Ok"
  | .literalMismatch => "MismatchInputPattern"
  | .unreadableValue => "ParsingFailed"
  | .inputExhausted => "EmptyInputTail"
  | .inputRemains => "NotEmptyInputTail"
  | .templateRemains => "NotEmptyPatternTail"
  | .tooFewJokers => "PatternMissingJoker"
  | .tooManyJokers => "PatternTooManyJoker"

/-- What a user is told of an outcome. -/
def message : Outcome → String
  | .ok => "Extraction succeeded"
  | .literalMismatch => "Input does not match pattern literal"
  | .unreadableValue => "Value could not be parsed from input"
  | .inputExhausted => "Input ended before all values were extracted"
  | .inputRemains => "Unconsumed input after pattern end"
  | .templateRemains => "Unmatched pattern text after input end"
  | .tooFewJokers => "Pattern has fewer jokers than values"
  | .tooManyJokers => "Pattern has more jokers than values"

def isOk (o : Outcome) : Bool := o == .ok

theorem eq_of_name_eq {o o' : Outcome} (h : o.name = o'.name) : o = o' := by
  revert h
  cases o <;> cases o' <;> decide

theorem eq_of_message_eq {o o' : Outcome} (h : o.message = o'.message) : o = o' := by
  revert h
  cases o <;> cases o' <;> decide

end Outcome

end TypedExtraction
