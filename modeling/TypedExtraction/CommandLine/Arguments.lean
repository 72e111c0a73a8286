import TypedExtraction.CommandLine.Command

/-!
# Arguments

The arguments of the program begin with switches of its own, then comes the
word for a command, and then the switches and operands of that command, mixed
in any order. A switch is a word behind two hyphens or a letter behind one;
letters can be joined. A switch that takes a value has it attached, with or
without an equals sign, or in the next argument. Behind a bare `--` there are
only operands.

Arguments are read from left to right, and the first that settles the matter,
by an error or by asking for the version or for help, decides (`Ending`).
-/

namespace TypedExtraction.CommandLine

inductive Switch where
  | verbose
  | version
  | help
  | scan
  | types
  | joker
  deriving DecidableEq, Repr

namespace Switch

def letter : Switch → Char
  | .verbose => 'v'
  | .version => 'V'
  | .help => 'h'
  | .scan => 's'
  | .types => 't'
  | .joker => 'j'

def word : Switch → String
  | .verbose => "verbose"
  | .version => "version"
  | .help => "help"
  | .scan => "scan"
  | .types => "types"
  | .joker => "joker"

def takesValue : Switch → Bool
  | .types | .joker => true
  | _ => false

def general : List Switch := [.verbose, .version, .help]

def ofExtract : List Switch := [.verbose, .help, .types, .joker]

def ofSearch : List Switch := [.verbose, .help, .scan]

end Switch

inductive Item where
  | flag (switch : Switch)
  | setting (switch : Switch) (value : String)
  /-- A switch whose value has to be the next argument. -/
  | awaiting (switch : Switch)
  | operand (text : String)
  | invalid
  deriving DecidableEq, Repr

/-- Why no command is run. -/
inductive Ending where
  | version
  | help
  | usageError
  deriving DecidableEq, Repr

namespace Arguments

/-- Whether an argument is a switch, or the bare `--`. -/
def isSwitch (arg : String) : Bool :=
  match arg.toList with
  | '-' :: _ :: _ => true
  | _ => false

def letterItems (known : List Switch) : List Char → List Item
  | [] => []
  | c :: rest =>
    match known.find? (·.letter == c) with
    | none => [.invalid]
    | some switch =>
      if switch.takesValue then
        match rest with
        | [] => [.awaiting switch]
        | '=' :: value => [.setting switch (String.ofList value)]
        | value => [.setting switch (String.ofList value)]
      else .flag switch :: letterItems known rest

/-- The item of a word, to which a value may be attached behind an equals sign. -/
def wordItem (known : List Switch) (text : List Char) : Item :=
  let word := String.ofList (text.takeWhile (· != '='))
  match known.find? (·.word == word), text.dropWhile (· != '=') with
  | some switch, [] => if switch.takesValue then .awaiting switch else .flag switch
  | some switch, _ :: value =>
    if switch.takesValue then .setting switch (String.ofList value) else .invalid
  | none, _ => .invalid

def switchItems (known : List Switch) (arg : String) : List Item :=
  match arg.toList with
  | '-' :: '-' :: text => [wordItem known text]
  | '-' :: letters => letterItems known letters
  | _ => [.invalid]

def items (known : List Switch) : List String → List Item
  | [] => []
  | arg :: rest =>
    if arg = "--" then rest.map .operand
    else if isSwitch arg then
      let found := switchItems known arg
      match found.getLast? with
      | some (.awaiting switch) =>
        match rest with
        | [] => found
        | value :: rest =>
          if isSwitch value then found
          else found.dropLast ++ .setting switch value :: items known rest
      | _ => found ++ items known rest
    else .operand arg :: items known rest

/-- What the arguments have said so far. -/
structure Settings where
  verbosity : Nat := 0
  operands : List String := []
  kindNames : List String := []
  joker? : Option Char := none
  scan : Bool := false

/-- Takes in one more item. Only operands and kinds may come more than once, and of operands there
may be two. -/
def Settings.add (s : Settings) : Item → Except Ending Settings
  | .flag .verbose => .ok { s with verbosity := s.verbosity + 1 }
  | .flag .version => .error .version
  | .flag .help => .error .help
  | .flag .scan => if s.scan then .error .usageError else .ok { s with scan := true }
  | .setting .types value => .ok { s with kindNames := s.kindNames ++ value.splitOn "," }
  | .setting .joker value =>
    match value.toList, s.joker? with
    | [c], none => .ok { s with joker? := some c }
    | _, _ => .error .usageError
  | .operand text =>
    if s.operands.length < 2 then .ok { s with operands := s.operands ++ [text] }
    else .error .usageError
  | _ => .error .usageError

def Settings.addAll (s : Settings) (items : List Item) : Except Ending Settings :=
  items.foldlM Settings.add s

/-- The first operand, and the source that the second one names. -/
def Settings.operandAndSource (s : Settings) : Except Ending (String × Source) :=
  match s.operands with
  | [text] => .ok (text, .standardInput)
  | [text, path] => .ok (text, .file path)
  | _ => .error .usageError

def commandOf (s : Settings) (word : String) (args : List String) :
    Except Ending (Settings × Command) :=
  match word with
  | "extract" => do
    let s ← s.addAll (items Switch.ofExtract args)
    let (text, source) ← s.operandAndSource
    return (s, .extract ⟨text, s.joker?.getD '$'⟩ s.kindNames source)
  | "search" => do
    let s ← s.addAll (items Switch.ofSearch args)
    let (text, source) ← s.operandAndSource
    return (s, .search text (if s.scan then .scanning else .anchored) source)
  | "help" =>
    match args with
    | [] | ["extract"] | ["search"] | ["help"] => .error .help
    | _ => .error .usageError
  | _ => .error .usageError

/-- The settings and the command that arguments stand for, after some settings. -/
def readFrom (s : Settings) : List String → Except Ending (Settings × Command)
  | [] => .error .usageError
  | arg :: rest =>
    if arg = "--" then .error .usageError
    else if isSwitch arg then
      match s.addAll (switchItems Switch.general arg) with
      | .error ending => .error ending
      | .ok s => readFrom s rest
    else commandOf s arg rest

end Arguments

structure Invocation where
  verbosity : Nat
  command : Command
  deriving DecidableEq, Repr

def Invocation.ofArguments (args : List String) : Except Ending Invocation := do
  let (settings, command) ← Arguments.readFrom {} args
  return ⟨settings.verbosity, command⟩

end TypedExtraction.CommandLine
