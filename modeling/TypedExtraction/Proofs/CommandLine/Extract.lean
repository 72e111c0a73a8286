import TypedExtraction.Proofs.CommandLine.Failure
import TypedExtraction.Proofs.CommandLine.Run
import TypedExtraction.Proofs.Extraction.Kinds

/-!
# Extracting on the command line

`extractReport` is what a user sees of an extraction. It is settled by three
things, each asked for only if the ones before it are right: the names of the
kinds, the input, and the extraction itself. The first that is wrong is an
`ExtractCause`, and it is what the user is told (`tells_extractReport`).
-/

namespace TypedExtraction.CommandLine

open Text Extraction

/-- What a user sees of an extraction who does not want to be told more. -/
def extractReport (template : Template) (names : List String) (source : Source)
    (read : Source → Except ReadFailure String) : Report :=
  Report.shownAt 0 ((Command.extract template names source).run (m := Id) read)

def kindLine (kind : Kind) (value : Value) : String :=
  kind.name ++ ": " ++ value.display ++ "\n"

/-- The names stand for `kinds`, and what is read is `input` but for a line break at its end. -/
structure Ready (names : List String) (result : Except ReadFailure String) (kinds : List Kind)
    (input : Cursor) : Prop where
  known : names.map kindFor? = kinds.map some
  readable : ∃ text, result = .ok text ∧ WithoutLineBreak (Cursor.ofString text) input

/-- The first thing that is wrong with an extraction. -/
inductive ExtractCause (template : Template) (names : List String) (source : Source)
    (result : Except ReadFailure String) : Failure → Prop where
  | unknownKind {before name after} (names_eq : names = before ++ name :: after)
      (known_before : ∀ n ∈ before, (kindFor? n).isSome = true) (unknown : kindFor? name = none) :
      ExtractCause template names source result (.unknownKind (trim name))
  | unreadable {kinds : List Kind} {cause} (known : names.map kindFor? = kinds.map some)
      (result_eq : result = .error cause) :
      ExtractCause template names source result (.unreadable source cause)
  | extraction {kinds input} (ready : Ready names result kinds input)
      (not_ok : (extractKinds template input kinds).outcome ≠ .ok) :
      ExtractCause template names source result
        (.extraction (extractKinds template input kinds).outcome)

section
variable {template : Template} {names : List String} {source : Source}
  {read : Source → Except ReadFailure String} {kinds : List Kind} {input : Cursor}

theorem extractReport_of_unknown {before after : List String} {name : String}
    (hbefore : ∀ n ∈ before, (kindFor? n).isSome = true) (h : kindFor? name = none) :
    extractReport template (before ++ name :: after) source read =
      .ofResult [] (.error (.unknownKind (trim name))) := by
  have htask : (Command.extract template (before ++ name :: after) source).task =
      .error (.unknownKind (trim name)) := by
    rw [Command.task, kindsNamed_of_unknown hbefore h]
    rfl
  rw [extractReport, run_of_task_error htask]
  exact shownAt_zero_ofResult _ _

theorem exists_task_of_known (h : names.map kindFor? = kinds.map some) :
    ∃ task : Task, task.source = source ∧ task.lines = extractLines template kinds ∧
      extractReport template names source read = (task.report (read source)).shownAt 0 := by
  obtain ⟨task, htask, hsource, hlines⟩ : ∃ task : Task,
      (Command.extract template names source).task = .ok task ∧ task.source = source ∧
        task.lines = extractLines template kinds := by
    rw [Command.task, kindsNamed_of_known h]
    exact ⟨_, rfl, rfl, rfl⟩
  refine ⟨task, hsource, hlines, ?_⟩
  rw [extractReport, run_of_task_ok htask, hsource]
  rfl

theorem extractReport_of_unreadable {cause : ReadFailure} (h : names.map kindFor? = kinds.map some)
    (hread : read source = .error cause) :
    extractReport template names source read =
      .ofResult [] (.error (.unreadable source cause)) := by
  obtain ⟨task, hsource, -, hreport⟩ := exists_task_of_known h
  rw [hreport, hread, shownAt_zero_report_of_error, hsource]

theorem Ready.extractReport_eq (h : Ready names (read source) kinds input) :
    extractReport template names source read =
      .ofResult [] (extractLines template kinds input) := by
  obtain ⟨text, hread, hinput⟩ := h.readable
  obtain ⟨task, -, hlines, hreport⟩ := exists_task_of_known h.known
  rw [hreport, hread, shownAt_zero_report_of_ok task hinput, hlines]

theorem Ready.extractReport_of_ne_ok (h : Ready names (read source) kinds input)
    (hno : (extractKinds template input kinds).outcome ≠ .ok) :
    extractReport template names source read =
      .ofResult [] (.error (.extraction (extractKinds template input kinds).outcome)) := by
  rw [h.extractReport_eq, extractLines, if_neg (by simpa [Outcome.isOk] using hno)]

/-- No value is dropped, and each is shown under the kind that was asked for. -/
theorem Ready.exists_extractReport_of_ok (h : Ready names (read source) kinds input)
    (hok : (extractKinds template input kinds).outcome = .ok) :
    ∃ values : List Value, values.length = kinds.length ∧
      (extractKinds template input kinds).slots.map Slot.value? = values.map some ∧
      extractReport template names source read =
        ⟨0, String.join (List.zipWith kindLine kinds values), "", []⟩ := by
  obtain ⟨values, hkinds, hvalues⟩ := exists_values_extractKinds hok
  have hkept : (extractKinds template input kinds).slots.filterMap Slot.value? = values := by
    have hid := congrArg (List.filterMap id) hvalues
    simpa [List.filterMap_map, Function.comp_def] using hid
  have hlines : values.map valueLine = List.zipWith kindLine kinds values := by
    rw [← hkinds, List.zipWith_map_left, List.zipWith_self]
    rfl
  refine ⟨values, by rw [← hkinds, List.length_map], hvalues, ?_⟩
  rw [h.extractReport_eq, extractLines, if_pos (by rw [hok]; rfl), hkept, hlines]
  rfl

theorem exists_ready_or_cause (template : Template) (names : List String) (source : Source)
    (result : Except ReadFailure String) :
    (∃ kinds input, Ready names result kinds input ∧
      (extractKinds template input kinds).outcome = .ok) ∨
    ∃ f, ExtractCause template names source result f := by
  rcases known_or_unknown names with ⟨kinds, hkinds⟩ | ⟨before, name, after, hnames, hbefore, hname⟩
  · cases result with
    | error cause => exact .inr ⟨_, .unreadable hkinds rfl⟩
    | ok text =>
      have hready : Ready names (.ok text) kinds (dropLineBreak (Cursor.ofString text)) :=
        ⟨hkinds, text, rfl, withoutLineBreak_dropLineBreak _⟩
      by_cases hok :
          (extractKinds template (dropLineBreak (Cursor.ofString text)) kinds).outcome = .ok
      · exact .inl ⟨kinds, _, hready, hok⟩
      · exact .inr ⟨_, .extraction hready hok⟩
  · exact .inr ⟨_, .unknownKind hnames hbefore hname⟩

theorem extractCause_unknownKind_iff {result : Except ReadFailure String} {name : String} :
    ExtractCause template names source result (.unknownKind name) ↔
      ∃ before spelling after, names = before ++ spelling :: after ∧
        (∀ n ∈ before, (kindFor? n).isSome = true) ∧ kindFor? spelling = none ∧
        trim spelling = name := by
  constructor
  · intro h
    cases h with
    | unknownKind hnames hbefore hname => exact ⟨_, _, _, hnames, hbefore, hname, rfl⟩
  · rintro ⟨before, spelling, after, hnames, hbefore, hname, rfl⟩
    exact .unknownKind hnames hbefore hname

theorem extractCause_unreadable_iff {result : Except ReadFailure String} {cause : ReadFailure} :
    ExtractCause template names source result (.unreadable source cause) ↔
      ∃ kinds : List Kind, names.map kindFor? = kinds.map some ∧ result = .error cause := by
  constructor
  · intro h
    cases h with
    | unreadable hkinds hread => exact ⟨_, hkinds, hread⟩
  · rintro ⟨kinds, hkinds, hread⟩
    exact .unreadable hkinds hread

theorem extractCause_extraction_iff {result : Except ReadFailure String} {outcome : Outcome}
    (ho : outcome ≠ .ok) :
    ExtractCause template names source result (.extraction outcome) ↔
      ∃ kinds input, Ready names result kinds input ∧
        (extractKinds template input kinds).outcome = outcome := by
  constructor
  · intro h
    cases h with
    | extraction hready _ => exact ⟨_, _, hready, rfl⟩
  · rintro ⟨kinds, input, hready, rfl⟩
    exact .extraction hready ho

/-- **An extraction succeeds, or the first thing that is wrong with it is told.** -/
theorem tells_extractReport (template : Template) (names : List String) (source : Source)
    (read : Source → Except ReadFailure String) :
    (extractReport template names source read).Tells
      (ExtractCause template names source (read source)) where
  eq_of_cause := by
    intro f hf
    cases hf with
    | unknownKind hnames hbefore hname =>
      rw [hnames]
      exact extractReport_of_unknown hbefore hname
    | unreadable hkinds hread => exact extractReport_of_unreadable hkinds hread
    | extraction hready hno => exact hready.extractReport_of_ne_ok hno
  succeeds_or_cause := by
    rcases exists_ready_or_cause template names source (read source) with
      ⟨kinds, input, hready, hok⟩ | hcause
    · obtain ⟨values, -, -, hreport⟩ := hready.exists_extractReport_of_ok hok
      exact .inl (congrArg Report.exitCode hreport)
    · exact .inr hcause

end

/-- **What a user sees of an extraction.** The program succeeds just where all names stand for
kinds, the input can be read, and the extraction from the input without the line break at its end is
`ok`. Then it prints a line for each kind that was asked for, in order, with the name of the kind
and its value. Otherwise it prints no line and tells the first cause: the first name that stands for
no kind, whether or not the input can be read, else why the input cannot be read, else the outcome
of the extraction. Each of these is told just where it is the first cause. -/
theorem extractReport_first_cause (template : Template) (names : List String) (source : Source)
    (read : Source → Except ReadFailure String) :
    let report := extractReport template names source read
    let origin := match source with
      | .standardInput => "stdin"
      | .file path => path
    (report.exitCode = 0 ↔ ∃ kinds input, Ready names (read source) kinds input ∧
      (extractKinds template input kinds).outcome = .ok) ∧
    (report.exitCode ≠ 0 → report.exitCode = 1 ∧ report.stdout = "") ∧
    (∀ kinds input, Ready names (read source) kinds input →
      (extractKinds template input kinds).outcome = .ok →
      ∃ values : List Value, values.length = kinds.length ∧
        (extractKinds template input kinds).slots.map Slot.value? = values.map some ∧
        report = ⟨0, String.join (List.zipWith kindLine kinds values), "", []⟩) ∧
    (∀ name, report = ⟨1, "", "Unknown value kind '" ++ name ++
        "', expected one of: bool, char, i64, int, rest, str, string, tail, u64, uint.\n", []⟩ ↔
      ∃ before spelling after, names = before ++ spelling :: after ∧
        (∀ n ∈ before, (kindFor? n).isSome = true) ∧ kindFor? spelling = none ∧
        trim spelling = name) ∧
    (∀ text, report = ⟨1, "", "Failed to read " ++ origin ++ ": " ++ text ++ "\n", []⟩ ↔
      ∃ (kinds : List Kind) (cause : ReadFailure), names.map kindFor? = kinds.map some ∧
        read source = .error cause ∧ cause.Says text) ∧
    (∀ outcome text, (outcome, text) ∈
        [(Outcome.literalMismatch, "Input does not match pattern literal"),
          (.unreadableValue, "Value could not be parsed from input"),
          (.inputExhausted, "Input ended before all values were extracted"),
          (.inputRemains, "Unconsumed input after pattern end"),
          (.templateRemains, "Unmatched pattern text after input end"),
          (.tooFewJokers, "Pattern has fewer jokers than values"),
          (.tooManyJokers, "Pattern has more jokers than values")] →
      (report = ⟨1, "", text ++ ".\n", []⟩ ↔ ∃ kinds input,
        Ready names (read source) kinds input ∧
          (extractKinds template input kinds).outcome = outcome)) := by
  intro report origin
  have htells : report.Tells (ExtractCause template names source (read source)) :=
    tells_extractReport template names source read
  have hsuccess : ∀ kinds input, Ready names (read source) kinds input →
      (extractKinds template input kinds).outcome = .ok → report.exitCode = 0 := by
    intro kinds input hready hok
    obtain ⟨values, -, -, hreport⟩ := hready.exists_extractReport_of_ok hok
    exact congrArg Report.exitCode hreport
  refine ⟨⟨fun hzero => ?_, ?_⟩, htells.failed, ?_, fun name => ?_, fun text => ?_,
    fun outcome text htext => ?_⟩
  · refine (exists_ready_or_cause template names source (read source)).resolve_right ?_
    rintro ⟨f, hf⟩
    exact htells.not_cause hzero hf
  · rintro ⟨kinds, input, hready, hok⟩
    exact hsuccess kinds input hready hok
  · intro kinds input hready hok
    exact hready.exists_extractReport_of_ok hok
  · rw [← Report.ofResult_unknownKind, htells.eq_iff fun _ _ => Failure.noConfusion,
      extractCause_unknownKind_iff]
  · have horigin : origin = source.name := by cases source <;> rfl
    rw [horigin, htells.unreadable_iff fun hcause => by cases hcause; rfl]
    simp only [extractCause_unreadable_iff]
    constructor
    · rintro ⟨cause, ⟨kinds, hkinds, hread⟩, hsays⟩
      exact ⟨kinds, cause, hkinds, hread, hsays⟩
    · rintro ⟨kinds, cause, hkinds, hread, hsays⟩
      exact ⟨cause, ⟨kinds, hkinds, hread⟩, hsays⟩
  · obtain ⟨ho, rfl⟩ : outcome ≠ .ok ∧ outcome.message = text := by
      simp only [List.mem_cons, Prod.mk.injEq, List.not_mem_nil, or_false] at htext
      rcases htext with ⟨rfl, rfl⟩ | ⟨rfl, rfl⟩ | ⟨rfl, rfl⟩ | ⟨rfl, rfl⟩ | ⟨rfl, rfl⟩ |
        ⟨rfl, rfl⟩ | ⟨rfl, rfl⟩ <;> exact ⟨by decide, rfl⟩
    rw [← Report.ofResult_extraction, htells.eq_iff fun _ _ => Failure.noConfusion,
      extractCause_extraction_iff ho]

end TypedExtraction.CommandLine
