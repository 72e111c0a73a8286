import TypedExtraction.CommandLine.Run

/-!
# The program

Reads files and the standard input for `CommandLine.run`, prints what it
reports, the records first, and exits with its code.
-/

namespace TypedExtraction.Main

open CommandLine

/-- The read failure that a system error stands for. -/
def readFailure : IO.Error → ReadFailure
  | .noFileOrDirectory .. => .notFound
  | .invalidArgument _ _ "name too long" => .nameTooLong
  | .inappropriateType _ code _ => if code = 21 then .isADirectory else .notADirectory
  | e => .other (toString e)

def read (source : Source) : IO (Except ReadFailure String) := do
  try
    let bytes ←
      match source with
      | .standardInput => (← IO.getStdin).readBinToEnd
      | .file path => IO.FS.readBinFile path
    return decodeText bytes
  catch e => return .error (readFailure e)

end TypedExtraction.Main

def main (args : List String) : IO UInt32 := do
  let report ← TypedExtraction.CommandLine.run TypedExtraction.Main.read args
  for record in report.records do
    IO.eprintln record.line
  IO.print report.stdout
  IO.eprint report.stderr
  return UInt32.ofNat report.exitCode
