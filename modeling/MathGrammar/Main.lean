import MathGrammar.CommandLine.Run

/-! # The command

The outer layer: arguments, environment, file and output. -/

namespace MathGrammar

/-- What the file system holds under a name. -/
def readContents (name : Text) : IO Contents := do
  if name.contains '\x00' then
    return .inaccessible .nullCharacter
  try
    let data ← IO.FS.readBinFile (String.ofList name)
    return .bytes data.toList
  catch
    | .noFileOrDirectory .. => return .missing
    | .inappropriateType _ code _ =>
      return .inaccessible (if code = 20 then .notDirectory else .isDirectory)
    | .invalidArgument _ 36 _ => return .inaccessible .nameTooLong
    | error => throw error

/-- Run the command in its environment. -/
def runCommand (args : List String) : IO UInt32 := do
  let chosen := (← IO.getEnv "SPECIES_MARKER").map String.toList
  let marker := chosen.getD defaultMarker
  let request := Request.ofArguments marker (args.map String.toList)
  let contents ← match request with
    | .ok (.scan options) => readContents options.file
    | _ => pure .missing
  let run := Run.ofRequest Fault.surroundings marker (fun _ => contents) request
  IO.print run.stdout
  IO.eprint run.stderr
  match run.ending with
  | .exit status => return status.toUInt32
  | ending =>
    IO.eprintln ending.message
    return 1

end MathGrammar

/-- The command. -/
def main (args : List String) : IO UInt32 := MathGrammar.runCommand args
