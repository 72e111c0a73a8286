import TypedExtraction.Proofs.CommandLine.Failure
import TypedExtraction.Proofs.CommandLine.Run
import TypedExtraction.Proofs.Repetition.Leftmost

/-!
# Searching on the command line

`searchReport` is what a user sees of a search. It is settled by three things,
each asked for only if the ones before it are right: the input, the expression,
and the match. The first that is wrong is a `SearchCause`, and it is what the
user is told (`tells_searchReport`). What is printed of a match are the
characters of the input at the place that is printed with it
(`Repetition.isPartOf_of_matchIn?`), where the line break at the end of what was
read does not belong to the input.
-/

namespace TypedExtraction.CommandLine

open Text

/-- What a user sees of a search who does not want to be told more. -/
def searchReport (expression : String) (mode : Repetition.Mode) (source : Source)
    (read : Source → Except ReadFailure String) : Report :=
  Report.shownAt 0 ((Command.search expression mode source).run (m := Id) read)

/-- What is read is `input` but for a line break at its end. -/
def Readable (result : Except ReadFailure String) (input : Cursor) : Prop :=
  ∃ text, result = .ok text ∧ WithoutLineBreak (Cursor.ofString text) input

/-- The first thing that is wrong with a search. -/
inductive SearchCause (expression : String) (mode : Repetition.Mode) (source : Source)
    (result : Except ReadFailure String) : Failure → Prop where
  | unreadable {cause} (result_eq : result = .error cause) :
      SearchCause expression mode source result (.unreadable source cause)
  | expression {input f} (readable : Readable result input)
      (parse_eq : Repetition.parse (Cursor.ofString expression) = .error f) :
      SearchCause expression mode source result (.search f)
  | matching {input r f} (readable : Readable result input)
      (parse_eq : Repetition.parse (Cursor.ofString expression) = .ok r)
      (match_eq : r.matchIn mode input = .error f) :
      SearchCause expression mode source result (.search f)

section
variable {expression : String} {mode : Repetition.Mode} {source : Source}
  {read : Source → Except ReadFailure String} {input : Cursor} {r : Repetition} {m : Match}
  {f : Repetition.Failure}

/-! ## What is printed -/

theorem searchLines_of_parse_error (h : Repetition.parse (Cursor.ofString expression) = .error f)
    (mode : Repetition.Mode) (input : Cursor) :
    searchLines expression mode input = .error (.search f) := by
  unfold searchLines Repetition.search
  rw [h]
  rfl

theorem searchLines_of_parse_ok (h : Repetition.parse (Cursor.ofString expression) = .ok r)
    (mode : Repetition.Mode) (input : Cursor) :
    searchLines expression mode input =
      match r.matchIn mode input with
      | .ok m => .ok (matchLines m)
      | .error f => .error (.search f) := by
  unfold searchLines Repetition.search
  rw [h]
  rfl

/-! ## The report -/

theorem searchReport_of_unreadable {cause : ReadFailure} (h : read source = .error cause) :
    searchReport expression mode source read =
      .ofResult [] (.error (.unreadable source cause)) := by
  have hrun : searchReport expression mode source read =
    (Task.report ⟨source, _, _⟩ (read source)).shownAt 0 := rfl
  rw [hrun, h, shownAt_zero_report_of_error]

theorem Readable.searchReport_eq (h : Readable (read source) input) :
    searchReport expression mode source read =
      .ofResult [] (searchLines expression mode input) := by
  obtain ⟨text, hread, hinput⟩ := h
  have hrun : searchReport expression mode source read =
    (Task.report ⟨source, searchLines expression mode, _⟩ (read source)).shownAt 0 := rfl
  rw [hrun, hread, shownAt_zero_report_of_ok _ hinput]

theorem exists_readable (result : Except ReadFailure String) :
    (∃ input, Readable result input) ∨ ∃ cause, result = .error cause := by
  cases result with
  | error cause => exact .inr ⟨cause, rfl⟩
  | ok text => exact .inl ⟨_, text, rfl, withoutLineBreak_dropLineBreak (Cursor.ofString text)⟩

theorem Readable.searchReport_of_matchIn_ok (h : Readable (read source) input)
    (hparse : Repetition.parse (Cursor.ofString expression) = .ok r)
    (hm : r.matchIn mode input = .ok m) :
    searchReport expression mode source read = ⟨0, matchLines m, "", []⟩ := by
  rw [h.searchReport_eq, searchLines_of_parse_ok hparse, hm]
  rfl

/-! ## Causes -/

theorem exists_match_or_cause (expression : String) (mode : Repetition.Mode) (source : Source)
    (result : Except ReadFailure String) :
    (∃ input r m, Readable result input ∧
      Repetition.parse (Cursor.ofString expression) = .ok r ∧ r.matchIn mode input = .ok m) ∨
    ∃ f, SearchCause expression mode source result f := by
  rcases exists_readable result with ⟨input, hinput⟩ | ⟨cause, hread⟩
  · cases hparse : Repetition.parse (Cursor.ofString expression) with
    | error f => exact .inr ⟨_, .expression hinput hparse⟩
    | ok r =>
      cases hm : r.matchIn mode input with
      | error f => exact .inr ⟨_, .matching hinput hparse hm⟩
      | ok m => exact .inl ⟨input, r, m, hinput, rfl, hm⟩
  · exact .inr ⟨_, .unreadable hread⟩

/-- **A search succeeds, or the first thing that is wrong with it is told.** -/
theorem tells_searchReport (expression : String) (mode : Repetition.Mode) (source : Source)
    (read : Source → Except ReadFailure String) :
    (searchReport expression mode source read).Tells
      (SearchCause expression mode source (read source)) where
  eq_of_cause := by
    intro f hf
    cases hf with
    | unreadable hread => exact searchReport_of_unreadable hread
    | expression hinput hparse =>
      rw [hinput.searchReport_eq, searchLines_of_parse_error hparse]
    | matching hinput hparse hm =>
      rw [hinput.searchReport_eq, searchLines_of_parse_ok hparse, hm]
  succeeds_or_cause := by
    rcases exists_match_or_cause expression mode source (read source) with
      ⟨input, r, m, hinput, hparse, hm⟩ | hcause
    · exact .inl (congrArg Report.exitCode (hinput.searchReport_of_matchIn_ok hparse hm))
    · exact .inr hcause

/-- What is wrong with an expression is wrong for every input in either mode, and only then. -/
theorem searchCause_expression_iff {result : Except ReadFailure String} (hf : f ≠ .noMatch) :
    SearchCause expression mode source result (.search f) ↔
      (∃ input, Readable result input) ∧
        Repetition.parse (Cursor.ofString expression) = .error f := by
  constructor
  · intro h
    cases h with
    | expression hinput hparse => exact ⟨⟨_, hinput⟩, hparse⟩
    | matching _ _ hm => exact absurd (Repetition.eq_noMatch_of_matchIn hm) hf
  · rintro ⟨⟨input, hinput⟩, hparse⟩
    exact .expression hinput hparse

theorem searchCause_unreadable_iff {result : Except ReadFailure String} {cause : ReadFailure} :
    SearchCause expression mode source result (.unreadable source cause) ↔
      result = .error cause := by
  constructor
  · intro h
    cases h with
    | unreadable hread => exact hread
  · exact .unreadable

theorem searchCause_noMatch_iff {result : Except ReadFailure String} :
    SearchCause expression mode source result (.search .noMatch) ↔
      ∃ input r, Readable result input ∧
        Repetition.parse (Cursor.ofString expression) = .ok r ∧
        r.matchIn mode input = .error .noMatch := by
  constructor
  · intro h
    cases h with
    | expression _ hparse => exact absurd hparse (Repetition.parse_ne_noMatch _)
    | matching hinput hparse hm => exact ⟨_, _, hinput, hparse, hm⟩
  · rintro ⟨input, r, hinput, hparse, hm⟩
    exact .matching hinput hparse hm

end

/-- **What a user sees of a search.** The program succeeds just where the input can be read, the
expression can be parsed and a match is found in the input without the line break at its end. Then
it prints the text of the match and a line with its offset, its length and its count: the text is
the part of the input at this offset with this length, the offset is 0 unless the input is scanned,
and the count is within the bounds. Otherwise it prints no line and tells the first cause: why the input
cannot be read, whatever the expression is, else what is wrong with the expression, else that there
is no match. Each of these is told just where it is the first cause, so what is wrong with an
expression is told for every input and in both modes. -/
theorem searchReport_first_cause (expression : String) (mode : Repetition.Mode) (source : Source)
    (read : Source → Except ReadFailure String) :
    let report := searchReport expression mode source read
    let parsed := Repetition.parse (Cursor.ofString expression)
    let origin := match source with
      | .standardInput => "stdin"
      | .file path => path
    (report.exitCode = 0 ↔ ∃ input r m, Readable (read source) input ∧ parsed = .ok r ∧
      r.matchIn mode input = .ok m) ∧
    (report.exitCode ≠ 0 → report.exitCode = 1 ∧ report.stdout = "") ∧
    (∀ input r m, Readable (read source) input → parsed = .ok r → r.matchIn mode input = .ok m →
      report = ⟨0, m.text ++ "\n" ++ "offset=" ++ toString m.offset ++ " len=" ++
        toString m.length ++ " repetitions=" ++ toString m.repetitions ++ "\n", "", []⟩ ∧
      Repetition.IsPartOf m input ∧ (mode = .anchored → m.offset = 0) ∧
      r.min ≤ m.repetitions ∧ m.repetitions ≤ r.max) ∧
    (∀ text, report = ⟨1, "", "Failed to read " ++ origin ++ ": " ++ text ++ "\n", []⟩ ↔
      ∃ cause, read source = .error cause ∧ cause.Says text) ∧
    (report = ⟨1, "", "Malformed regex, expected {members:min:max}.\n", []⟩ ↔
      (∃ input, Readable (read source) input) ∧ parsed = .error .malformed) ∧
    (report = ⟨1, "", "Regex minimum exceeds its maximum.\n", []⟩ ↔
      (∃ input, Readable (read source) input) ∧ parsed = .error .reversedBounds) ∧
    (report = ⟨1, "", "Input does not match.\n", []⟩ ↔ ∃ input r,
      Readable (read source) input ∧ parsed = .ok r ∧ r.matchIn mode input = .error .noMatch) ∧
    (∀ (input : Cursor) (r : Repetition) f, r.matchIn mode input = .error f → f = .noMatch) := by
  intro report parsed origin
  have htells : report.Tells (SearchCause expression mode source (read source)) :=
    tells_searchReport expression mode source read
  have hsuccess : ∀ input r m, Readable (read source) input → parsed = .ok r →
      r.matchIn mode input = .ok m → report = ⟨0, matchLines m, "", []⟩ :=
    fun input r m hinput hparse hm => hinput.searchReport_of_matchIn_ok hparse hm
  have hsearch : ∀ f : Repetition.Failure, report = ⟨1, "", f.message ++ ".\n", []⟩ ↔
      SearchCause expression mode source (read source) (.search f) := fun f => by
    rw [← Report.ofResult_search, htells.eq_iff fun _ _ => Failure.noConfusion]
  refine ⟨⟨fun hzero => ?_, ?_⟩, htells.failed, ?_, fun text => ?_, ?_, ?_, ?_, ?_⟩
  · refine (exists_match_or_cause expression mode source (read source)).resolve_right ?_
    rintro ⟨f, hf⟩
    exact htells.not_cause hzero hf
  · rintro ⟨input, r, m, hinput, hparse, hm⟩
    exact congrArg Report.exitCode (hsuccess input r m hinput hparse hm)
  · intro input r m hinput hparse hm
    have hmatch : r.matchIn? mode input = some m := Repetition.matchIn_eq_ok_iff.1 hm
    refine ⟨hsuccess input r m hinput hparse hm, Repetition.isPartOf_of_matchIn? hmatch, ?_,
      Repetition.repetitions_of_matchIn? hmatch⟩
    rintro rfl
    exact (Repetition.front_of_matchAt? hmatch).1
  · have horigin : origin = source.name := by cases source <;> rfl
    rw [horigin, htells.unreadable_iff fun hcause => by cases hcause; rfl]
    simp only [searchCause_unreadable_iff]
  · exact (hsearch .malformed).trans (searchCause_expression_iff (by decide))
  · exact (hsearch .reversedBounds).trans (searchCause_expression_iff (by decide))
  · exact (hsearch .noMatch).trans searchCause_noMatch_iff
  · exact fun input r f hm => Repetition.eq_noMatch_of_matchIn hm

end TypedExtraction.CommandLine
