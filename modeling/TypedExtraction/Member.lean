import TypedExtraction.Reader

/-!
# Class members

A class list is a row of members. A `literal` stands for its text, an
`interval` for each single character from its first to its last. Where several
members match, the one declared first counts (`firstLength?`).

In writing, a literal is quoted with single quotes and an interval is its two
ends around a hyphen; members follow each other without a separator. What
begins with a complete quoted text is read as a literal, anything else of the
form `x-y` as an interval.
-/

namespace TypedExtraction

open Text

inductive Member where
  | literal (text : String)
  | interval (first last : Char)
  deriving DecidableEq, Repr

namespace Member

def lengthAt? (m : Member) (input : Cursor) : Option Nat :=
  match m with
  | .literal text => if input.startsWith text.toList then some text.toList.length else none
  | .interval first last =>
    match input.peek? with
    | some c => if first ≤ c ∧ c ≤ last then some 1 else none
    | none => none

/-- The number of characters that the first matching member takes. -/
def firstLength? (members : List Member) (input : Cursor) : Option Nat :=
  members.findSome? (·.lengthAt? input)

def written : Member → List Char
  | .literal text => Quoted.encode '\'' text.toList
  | .interval first last => [first, '-', last]

def intervalReader : Reader (Char × Char) where
  probe
    | _ :: '-' :: _ :: _ => 3
    | _ => 0
  read?
    | first :: '-' :: last :: _ => some ⟨(first, last), 3⟩
    | _ => none

/-- The member at the front, a literal if there is one. -/
def read? (input : Cursor) : Option (Reading Member) :=
  match (Reader.quoted '\'').read? input with
  | some r => some (r.map .literal)
  | none => (intervalReader.read? input).map (Reading.map fun (first, last) => .interval first last)

theorem two_le_length_of_read? {input : Cursor} {r : Reading Member} (h : read? input = some r) :
    2 ≤ r.length := by
  unfold read? at h
  split at h
  · rename_i s hs
    obtain ⟨q, hq, rfl⟩ := Option.map_eq_some_iff.1 hs
    cases h
    exact Quoted.two_le_length_of_scan? hq
  · obtain ⟨s, hs, rfl⟩ := Option.map_eq_some_iff.1 h
    unfold intervalReader at hs
    dsimp only at hs
    split at hs
    · cases hs; simp
    · cases hs

def run (input : Cursor) : Reading (List Member) :=
  match _h : read? input with
  | none => ⟨[], 0⟩
  | some r =>
    let more := run (input.advance r.length)
    ⟨r.value :: more.value, r.length + more.length⟩
termination_by input.length
decreasing_by
  have h := _h
  have := two_le_length_of_read? h
  cases input with
  | nil => cases h
  | cons => simp; omega

/-- The longest run of members, at least one. -/
def listReader : Reader (List Member) where
  probe input := (run input).length
  read? input :=
    match run input with
    | ⟨[], _⟩ => none
    | r => some r

end Member

end TypedExtraction
