import TypedExtraction.Member

/-!
# Repetitions

A `Repetition` is a class list that is to be repeated at least `min` and at
most `max` times. The largest count, `unbounded`, stands for the absence of a
maximum. `Repetition.written` is its expression: the members and the two
bounds between braces, with colons between them and nothing for a missing
maximum.
-/

namespace TypedExtraction

open Text

/-- The count that stands for no maximum. -/
def unbounded : Nat := UInt64.size - 1

structure Repetition where
  members : List Member
  min : Nat
  max : Nat
  min_le_max : min ≤ max
  max_le_unbounded : max ≤ unbounded
  deriving DecidableEq, Repr

namespace Repetition

/-- Why an expression gives no match. -/
inductive Failure where
  /-- The input is not a repetition of members. -/
  | noMatch
  /-- The expression is not of the expected form. -/
  | malformed
  /-- The minimum is above the maximum. -/
  | reversedBounds
  deriving DecidableEq, Repr

namespace Failure

/-- What a user is told of a failure. -/
def message : Failure → String
  | .noMatch => "Input does not match"
  | .malformed => "Malformed regex, expected {members:min:max}"
  | .reversedBounds => "Regex minimum exceeds its maximum"

theorem eq_of_message_eq {f g : Failure} (h : f.message = g.message) : f = g := by
  revert h
  cases f <;> cases g <;> decide

end Failure

/-- The repetition with some bounds; a maximum from `unbounded` on is no maximum. -/
def ofBounds (members : List Member) (min max : Nat) : Except Failure Repetition :=
  if h : min ≤ Nat.min max unbounded then
    .ok ⟨members, min, Nat.min max unbounded, h, Nat.min_le_right max unbounded⟩
  else .error .reversedBounds

def isUnbounded (r : Repetition) : Bool := r.max == unbounded

def written (r : Repetition) : List Char :=
  ['{'] ++ r.members.flatMap Member.written ++ [':'] ++ Decimal.write r.min ++ [':'] ++
    (if r.isUnbounded then [] else Decimal.write r.max) ++ ['}']

end Repetition

end TypedExtraction
