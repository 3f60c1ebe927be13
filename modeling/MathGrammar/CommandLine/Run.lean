import MathGrammar.CommandLine.Help
import MathGrammar.CommandLine.Report
import MathGrammar.Text.Utf8

/-! # Runs

A run of the command: from the arguments, the default marker and what the named file holds to the
output and how the run ends. -/

namespace MathGrammar

/-- Why what is under a name cannot be read. -/
inductive AccessError where
  /-- It is a directory. -/
  | isDirectory
  /-- The name goes through a file as if it were a directory. -/
  | notDirectory
  /-- The name is too long. -/
  | nameTooLong
  /-- No name holds a null character. -/
  | nullCharacter
deriving DecidableEq, Repr

/-- What is found under the name of a file. -/
inductive Contents where
  /-- Nothing. -/
  | missing
  /-- Something that cannot be read. -/
  | inaccessible (error : AccessError)
  /-- A file of these bytes. -/
  | bytes (bytes : List UInt8)
deriving DecidableEq, Repr

/-- How a run ends. -/
inductive Ending where
  /-- With an exit status. -/
  | exit (status : Nat)
  /-- What is under the name cannot be read. -/
  | inaccessible (name : Text) (error : AccessError)
  /-- The file is not text. -/
  | malformed (malformed : Utf8.Malformed)
  /-- There is a line, but no marker to compare it with. -/
  | markerMissing
deriving DecidableEq, Repr

/-- A run that has ended. -/
structure Run where
  /-- How it ended. -/
  ending : Ending
  /-- What was written to the output. -/
  stdout : String
  /-- What was written to the error output. -/
  stderr : String
deriving DecidableEq, Repr

/-- Why a name cannot be read, in words. -/
def AccessError.message (name : Text) : AccessError → String
  | .isDirectory => "[Errno 21] Is a directory: " ++ String.ofList name.quoted
  | .notDirectory => "[Errno 20] Not a directory: " ++ String.ofList name.quoted
  | .nameTooLong => "[Errno 36] File name too long: " ++ String.ofList name.quoted
  | .nullCharacter => "embedded null byte"

/-- What went wrong in a run, in words. -/
def Ending.message : Ending → String
  | .exit _ => ""
  | .inaccessible name error => error.message name
  | .malformed error => error.message
  | .markerMissing => "startswith first arg must be str or a tuple of str, not list"

namespace Run

variable (surroundings : Fault → Text → Text)

/-- Report on a document that is scanned for the marker. -/
def report (options : Options) (marker document : Text) : Run :=
  let report := Report.ofDocument surroundings options.failFast marker document
  ⟨.exit report.status, report.render options.file, if options.verbose then report.log else ""⟩

/-- Scan a document. Without a marker only an empty one can be scanned. -/
def scan (options : Options) (document : Text) : Run :=
  match options.marker with
  | some marker => report surroundings options marker document
  | none =>
    if document.isEmpty then report surroundings options [] document else ⟨.markerMissing, "", ""⟩

/-- Report on what is found under the name of the file. A file is text in UTF-8, whose returns
count as line feeds. -/
def ofContents (options : Options) : Contents → Run
  | .missing => ⟨.exit 1, "", "Error: File '" ++ String.ofList options.file ++ "' not found.\n"⟩
  | .inaccessible error => ⟨.inaccessible options.file error, "", ""⟩
  | .bytes bytes =>
    match Utf8.decode bytes with
    | .ok text => scan surroundings options text.universalNewlines
    | .error error => ⟨.malformed error, "", ""⟩

/-- Do what is asked for. -/
def ofRequest (marker : Text) (lookup : Text → Contents) : Except UsageError Request → Run
  | .error error => ⟨.exit 2, "", Help.ofError error⟩
  | .ok .help => ⟨.exit 0, Help.text marker, ""⟩
  | .ok (.scan options) => ofContents surroundings options (lookup options.file)

end Run

/-- Run the command. `chosen` is the marker that the environment chooses, `lookup` finds what is
under the name of a file, and `surroundings` finds the text that is shown around a fault. -/
def Run.ofArguments (chosen : Option Text) (lookup : Text → Contents) (args : List Text)
    (surroundings : Fault → Text → Text := Fault.surroundings) : Run :=
  let marker := chosen.getD defaultMarker
  ofRequest surroundings marker lookup (Request.ofArguments marker args)

end MathGrammar
