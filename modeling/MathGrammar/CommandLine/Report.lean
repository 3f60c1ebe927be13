import MathGrammar.Document.Excerpt
import MathGrammar.Fault.Message
import MathGrammar.WholeText

/-! # Reports

A report goes through the excerpts of a document one after another. It says of each whether it is a
block, and counts the blocks and the failures as it goes. When it is to stop early, it breaks off at
the first failure. -/

namespace MathGrammar

/-- A place as it is shown, with lines and columns from one. -/
def Place.shown (place : Place) : String :=
  "(line " ++ toString (place.line + 1) ++ ", column " ++ toString (place.column + 1) ++ ")"

namespace Excerpt

/-- What an excerpt is called, by its number. -/
def title (number : Nat) : String := "Block " ++ toString number

/-- What is written about a block: where it starts, and its productions. -/
def passedText (excerpt : Excerpt) (number : Nat) (block : MathBlock) : String :=
  "\n# " ++ title number ++ " (line " ++ toString (excerpt.startLine + 1) ++ ")\n"
    ++ String.ofList block.render ++ "\n"

/-- What is written about an excerpt that does not start with a block: where it fails and why, and
the text around that place. -/
def faultyText (excerpt : Excerpt) (number : Nat) (fault : Fault) (surroundings : Text) : String :=
  "\n[Error] Parsing failed in " ++ title number ++ " " ++ (excerpt.locate fault.offset).shown
    ++ ":\n" ++ fault.message excerpt.content ++ "\n" ++ String.ofList surroundings ++ "\n"

/-- What is written about an excerpt in which something is left behind a block. -/
def unparsedText (excerpt : Excerpt) (number : Nat) (left : Text) : String :=
  "\n[Error] Unparsed text after " ++ title number ++ " "
    ++ (excerpt.locate ↑(excerpt.content.length - left.length)).shown ++ ": "
    ++ String.ofList (Text.quoted left) ++ "\n"

/-- What is logged while the excerpt is read: each production as soon as it is complete, also when
the block fails further on, and the whole block. -/
def log (excerpt : Excerpt) : List String :=
  let productions := (committedProductions excerpt.content).map fun (production, offset) =>
    "parsed production " ++ String.ofList production.label.quoted ++ " at offset "
      ++ toString offset
  match parseMathBlock excerpt.content with
  | .ok (block, _) =>
    productions
      ++ ["parsed math block with " ++ toString block.productions.length ++ " productions"]
  | .error _ => productions

end Excerpt

/-- What a report has come to. -/
structure Report where
  /-- The number of excerpts in the document. -/
  total : Nat
  /-- What was written about them. -/
  body : String
  /-- What was logged, line by line. -/
  logged : List String
  /-- How many excerpts were blocks. -/
  parsed : Nat
  /-- How many were not. -/
  failed : Nat
deriving DecidableEq

namespace Report

/-- The report behind more excerpts, of which the first has this number. An excerpt fails when no
block can be read, and when something is left behind the block; after either failure the report goes
on, unless it is to stop early. The text around a fault is found by `surroundings`. -/
def scan (surroundings : Fault → Text → Text) (failFast : Bool) (report : Report) (number : Nat) :
    List Excerpt → Report
  | [] => report
  | excerpt :: rest =>
    let report := { report with logged := report.logged ++ excerpt.log }
    match parseMathBlock excerpt.content with
    | .error fault =>
      let around := surroundings fault excerpt.content
      let report := { report with
        failed := report.failed + 1
        body := report.body ++ excerpt.faultyText number fault around }
      if failFast then report else scan surroundings failFast report (number + 1) rest
    | .ok (block, left) =>
      if left ≠ [] then
        let report := { report with
          failed := report.failed + 1
          body := report.body ++ excerpt.unparsedText number left }
        if failFast then report else scan surroundings failFast report (number + 1) rest
      else
        let report := { report with
          body := report.body ++ excerpt.passedText number block
          parsed := report.parsed + 1 }
        scan surroundings failFast report (number + 1) rest

/-- The report on a document. -/
def ofDocument (surroundings : Fault → Text → Text) (failFast : Bool) (marker document : Text) :
    Report :=
  let found := excerpts marker document
  scan surroundings failFast ⟨found.length, "", [], 0, 0⟩ 1 found

/-- The exit status: one if anything failed. -/
def status (report : Report) : Nat := if report.failed = 0 then 0 else 1

/-- The first line. -/
def header (report : Report) (file : Text) : String :=
  "Scanning " ++ String.ofList file ++ ": " ++ toString report.total ++ " math blocks\n"

/-- The last line, with an empty one before it. -/
def footer (report : Report) : String :=
  "\nDone. " ++ toString report.parsed ++ " parsed, " ++ toString report.failed ++ " failed.\n"

/-- The report in words. -/
def render (report : Report) (file : Text) : String :=
  report.header file ++ report.body ++ report.footer

/-- What is logged while the report is made. -/
def log (report : Report) : String :=
  String.join (report.logged.map fun line => "DEBUG species.syntax.grammar: " ++ line ++ "\n")

end Report

end MathGrammar
