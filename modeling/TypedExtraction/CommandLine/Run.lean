import TypedExtraction.CommandLine.Arguments
import TypedExtraction.CommandLine.ReadFailure
import TypedExtraction.Repetition.Trace
import TypedExtraction.Text.Blank

/-!
# Runs of the program

`Command.run` carries out a command and reports its output or its first
failure: names of kinds are looked up before the input is read, and the input
is read before an expression is parsed. One line break at the end of the input
does not count. How the input is read is a parameter, so that a run makes
sense in any monad. `run` answers the arguments of the program.
-/

namespace TypedExtraction.CommandLine

open Text

inductive Failure where
  | unknownKind (name : String)
  | unreadable (source : Source) (cause : ReadFailure)
  | extraction (outcome : Outcome)
  | search (failure : Repetition.Failure)
  deriving DecidableEq, Repr

def Failure.message : Failure → String
  | .unknownKind name =>
    "Unknown value kind '" ++ name ++ "', expected one of: " ++
      ", ".intercalate (Kind.names.map Prod.fst) ++ "."
  | .unreadable source cause => "Failed to read " ++ source.name ++ ": " ++ cause.message
  | .extraction outcome => outcome.message ++ "."
  | .search failure => failure.message ++ "."

/-- The kind that a name stands for; blank characters around it do not count. -/
def kindNamed (name : String) : Except Failure Kind :=
  match Kind.ofName? (trim name) with
  | some kind => .ok kind
  | none => .error (.unknownKind (trim name))

/-- The kinds that some names stand for, or the first name that stands for none. -/
def kindsNamed (names : List String) : Except Failure (List Kind) := names.mapM kindNamed

/-- A text without the line break at its end. -/
def dropLineBreak (text : Cursor) : Cursor :=
  match text.reverse with
  | '\n' :: '\r' :: rest => rest.reverse
  | '\n' :: rest => rest.reverse
  | _ => text

def valueLine (value : Value) : String := value.kind.name ++ ": " ++ value.display ++ "\n"

def extractLines (template : Template) (kinds : List Kind) (input : Cursor) :
    Except Failure String :=
  let report := extractKinds template input kinds
  if report.outcome.isOk then
    .ok (String.join ((report.slots.filterMap Slot.value?).map valueLine))
  else .error (.extraction report.outcome)

def matchLines (m : Match) : String :=
  m.text ++ "\n" ++ "offset=" ++ toString m.offset ++ " len=" ++ toString m.length ++
    " repetitions=" ++ toString m.repetitions ++ "\n"

def searchLines (expression : String) (mode : Repetition.Mode) (input : Cursor) :
    Except Failure String :=
  match Repetition.search mode (Cursor.ofString expression) input with
  | .ok m => .ok (matchLines m)
  | .error failure => .error (.search failure)

/-- What a command does with its input, once its arguments are found to be right. -/
structure Task where
  source : Source
  /-- The lines for the standard output. -/
  lines : Cursor → Except Failure String
  /-- What is told on the way. -/
  records : Cursor → List Record

def kindsRecord (kinds : List Kind) : Record :=
  ⟨.debug, "patex", "kinds: " ++ ", ".intercalate (kinds.map Kind.name)⟩

def Command.task : Command → Except Failure Task
  | .extract template kindNames source => do
    let kinds ← kindsNamed kindNames
    return {
      source
      lines := extractLines template kinds
      records := fun input =>
        kindsRecord kinds ::
          (extractKinds template input kinds).events.map Extraction.Event.record }
  | .search expression mode source =>
    .ok {
      source
      lines := searchLines expression mode
      records := Repetition.searchRecords mode (Cursor.ofString expression) }

/-- What the program leaves behind, and what it has told on the way. -/
structure Report where
  exitCode : Nat
  stdout : String
  stderr : String
  records : List Record := []
  deriving DecidableEq, Repr

namespace Report

def ofResult (records : List Record) : Except Failure String → Report
  | .ok lines => ⟨0, lines, "", records⟩
  | .error failure => ⟨1, "", failure.message ++ "\n", records⟩

def usage : String :=
  "Usage: patex [-v]... extract PATTERN [FILE] [-t|--types LIST]... [-j|--joker CHAR]\n" ++
  "       patex [-v]... search REGEX [FILE] [-s|--scan]\n"

/-- The report where no command is run. -/
def ofEnding : Ending → Report
  | .version => ⟨0, "patex 0.1.0\n", "", []⟩
  | .help => ⟨0, usage, "", []⟩
  | .usageError => ⟨2, "", usage, []⟩

/-- The report with the records that are shown at a verbosity. -/
def shownAt (verbosity : Nat) (r : Report) : Report :=
  { r with records := r.records.filter (·.level.isShown verbosity) }

end Report

def Task.report (t : Task) : Except ReadFailure String → Report
  | .error cause => .ofResult [] (.error (.unreadable t.source cause))
  | .ok text =>
    let input := dropLineBreak (Cursor.ofString text)
    .ofResult (t.records input) (t.lines input)

def Command.run {m : Type → Type} [Monad m] (read : Source → m (Except ReadFailure String))
    (command : Command) : m Report :=
  match command.task with
  | .error failure => return .ofResult [] (.error failure)
  | .ok task => do return task.report (← read task.source)

def run {m : Type → Type} [Monad m] (read : Source → m (Except ReadFailure String))
    (args : List String) : m Report :=
  match Invocation.ofArguments args with
  | .error ending => return .ofEnding ending
  | .ok invocation => do return (← invocation.command.run read).shownAt invocation.verbosity

end TypedExtraction.CommandLine
