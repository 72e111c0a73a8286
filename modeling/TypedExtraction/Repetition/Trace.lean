import TypedExtraction.Repetition.Search

/-!
# What a search tells

The journal records that parsing and matching leave behind. Parsing tells what
the extraction of each form tells, and then the bounds it has found. Matching
tells how far each sweep went, unless only the empty match is allowed, and
scanning tells where it has found something.
-/

namespace TypedExtraction.Repetition

open Text Extraction

def readFormsRecords : List Form → Cursor → List Record
  | [], _ => []
  | f :: forms, input =>
    (f.report input).events.map Event.record ++
      if (f.read? input).isSome then [] else readFormsRecords forms input

def boundsRecord (members : List Member) (min max : Nat) : Record :=
  ⟨.debug, "patex::regex::parser",
    "regex: " ++ toString members.length ++ " member(s), bounds " ++ toString min ++ "..=" ++
      toString max⟩

def parseRecords (input : Cursor) : List Record :=
  readFormsRecords Form.all input ++
    match readForms? Form.all input with
    | none => []
    | some (members, min, max) => [boundsRecord members min max]

def matchAtRecords (r : Repetition) (input : Cursor) : List Record :=
  if r.min = 0 ∧ r.max = 0 then []
  else
    let s := sweep r.members r.max input
    [⟨.trace, "patex::regex::matcher",
      String.ofList r.written ++ ": " ++ toString (s.repetitions r.min) ++ " repetition(s), " ++
        toString s.length ++ " char(s)"⟩]

def foundRecord (r : Repetition) (offset : Nat) : Record :=
  ⟨.debug, "patex::regex::matcher",
    String.ofList r.written ++ ": found at offset " ++ toString offset⟩

def findFromRecords (r : Repetition) (offset : Nat) : Cursor → List Record
  | [] => []
  | c :: rest =>
    r.matchAtRecords (c :: rest) ++
      match r.matchAt? (c :: rest) with
      | some m => if m.isEmpty then findFromRecords r (offset + 1) rest else [r.foundRecord offset]
      | none => findFromRecords r (offset + 1) rest

def findRecords (r : Repetition) (input : Cursor) : List Record :=
  r.findFromRecords 0 input ++
    if (r.findFrom? 0 input).isSome then [] else r.matchAtRecords input

def matchInRecords (r : Repetition) : Mode → Cursor → List Record
  | .anchored, input => r.matchAtRecords input
  | .scanning, input => r.findRecords input

def findAllRecords (r : Repetition) : (limit : Nat) → Cursor → List Record
  | 0, _ => []
  | limit + 1, input =>
    r.findRecords input ++
      match r.find? input with
      | none => []
      | some m =>
        if m.isEmpty then []
        else findAllRecords r limit (input.advance (m.offset + m.length))

def searchRecords (mode : Mode) (expression input : Cursor) : List Record :=
  parseRecords expression ++
    match parse expression with
    | .error _ => []
    | .ok r => r.matchInRecords mode input

end TypedExtraction.Repetition
