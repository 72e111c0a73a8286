import TypedExtraction.Repetition

/-!
# Matches

A repetition is matched from the front of an input. `sweep` goes from member
to member as long as one matches and the maximum allows; at each place the
member declared first counts. A member that takes no characters could be
repeated for ever, so it ends the sweep, and then every count up to the
maximum is reached. `matchAt?` accepts a sweep that reaches the minimum.

`find?` looks for the first place where something is matched, and `findAll`
goes on behind each match that it finds.
-/

namespace TypedExtraction

open Text

/-- A part of an input that is a repetition. -/
structure Match where
  /-- Where the part begins. -/
  offset : Nat
  text : String
  length : Nat
  /-- How often a member was repeated. -/
  repetitions : Nat
  deriving DecidableEq, Repr

/-- The match that repeats nothing. -/
def Match.empty (offset : Nat) : Match := ⟨offset, "", 0, 0⟩

def Match.isEmpty (m : Match) : Bool := m.length == 0

namespace Repetition

inductive Stop where
  /-- The maximum is reached. -/
  | atMax
  /-- No member matches. -/
  | noMember
  /-- The first member that matches takes no characters. -/
  | emptyMember
  deriving DecidableEq, Repr

/-- How far members follow each other. -/
structure Sweep where
  /-- The number of members, with the one that takes no characters. -/
  count : Nat
  length : Nat
  stop : Stop
  deriving DecidableEq, Repr

/-- Goes from member to member, at most `max` times. -/
def sweep (members : List Member) : (max : Nat) → Cursor → Sweep
  | 0, _ => ⟨0, 0, .atMax⟩
  | max + 1, input =>
    match Member.firstLength? members input with
    | none => ⟨0, 0, .noMember⟩
    | some 0 => ⟨1, 0, .emptyMember⟩
    | some (n + 1) =>
      let more := sweep members max (input.advance (n + 1))
      ⟨more.count + 1, n + 1 + more.length, more.stop⟩

/-- The number of repetitions a sweep stands for, given the minimum that is wanted. -/
def Sweep.repetitions (s : Sweep) (min : Nat) : Nat :=
  match s.stop with
  | .emptyMember => Nat.max s.count min
  | _ => s.count

def matchAt? (r : Repetition) (input : Cursor) : Option Match :=
  if r.min = 0 ∧ r.max = 0 then some (.empty 0)
  else
    let s := sweep r.members r.max input
    if s.repetitions r.min < r.min then none
    else some ⟨0, (input.limit s.length).toText, s.length, s.repetitions r.min⟩

/-- The first match that is not empty; `offset` is where the input begins. -/
def findFrom? (r : Repetition) (offset : Nat) : Cursor → Option Match
  | [] => none
  | c :: rest =>
    match r.matchAt? (c :: rest) with
    | some m =>
      if m.isEmpty then findFrom? r (offset + 1) rest else some { m with offset := offset }
    | none => findFrom? r (offset + 1) rest

/-- The first match that is not empty, or else the match at the front. -/
def find? (r : Repetition) (input : Cursor) : Option Match :=
  (r.findFrom? 0 input).orElse fun _ => r.matchAt? input

/-- The answers of `find?`, each on what is left behind the one before it: all matches that are not
empty and one last answer, but no more than `limit` answers. -/
def findAll (r : Repetition) : (limit : Nat) → Cursor → List (Option Match)
  | 0, _ => []
  | limit + 1, input =>
    match r.find? input with
    | none => [none]
    | some m =>
      if m.isEmpty then [some m]
      else some m :: findAll r limit (input.advance (m.offset + m.length))

end Repetition

end TypedExtraction
