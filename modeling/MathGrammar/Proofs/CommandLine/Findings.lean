import MathGrammar.CommandLine.Report
import Mathlib.Data.List.Basic

/-! # Findings

A report adds one finding after the other: what it says of an excerpt, what it logs, and the excerpt
as one more block or one more failure. So it is told from the list of the findings that it comes to,
which are those on all excerpts or, when it is to stop early, those up to the first failure. -/

namespace MathGrammar

/-- An excerpt that a report comes to. -/
structure Finding where
  /-- The number of the excerpt, from one. -/
  number : Nat
  /-- The excerpt. -/
  excerpt : Excerpt
deriving DecidableEq

namespace Finding

/-- Whether the excerpt is a block, with nothing left behind it. -/
def passed (finding : Finding) : Bool :=
  match parseMathBlock finding.excerpt.content with
  | .ok (_, []) => true
  | _ => false

/-- The finding in words: the productions of a block, or what is wrong and where. -/
def render (surroundings : Fault → Text → Text) (finding : Finding) : String :=
  match parseMathBlock finding.excerpt.content with
  | .ok (block, []) => finding.excerpt.passedText finding.number block
  | .ok (_, left) => finding.excerpt.unparsedText finding.number left
  | .error fault =>
    finding.excerpt.faultyText finding.number fault (surroundings fault finding.excerpt.content)

/-- The numbered excerpts, the first of them `number`. -/
def numbered (number : Nat) : List Excerpt → List Finding
  | [] => []
  | excerpt :: rest => ⟨number, excerpt⟩ :: numbered (number + 1) rest

/-- The findings on all excerpts of a document. -/
def ofDocument (marker document : Text) : List Finding := numbered 1 (excerpts marker document)

/-- The findings up to the first one that is no block, that one included. -/
def upToFailure : List Finding → List Finding
  | [] => []
  | finding :: rest => if finding.passed then finding :: upToFailure rest else [finding]

/-- The findings that a report comes to. -/
def cutOff (failFast : Bool) (findings : List Finding) : List Finding :=
  if failFast then upToFailure findings else findings

variable {finding : Finding} (findings : List Finding)

/-- The first finding is kept, and behind it the others unless it is a failure to stop at. -/
theorem cutOff_cons (failFast : Bool) (finding : Finding) : cutOff failFast (finding :: findings)
    = finding :: if failFast && !finding.passed then [] else cutOff failFast findings := by
  unfold cutOff
  cases failFast with
  | false => rfl
  | true =>
      rw [if_pos rfl, if_pos rfl, upToFailure]
      cases finding.passed <;> rfl

end Finding

namespace Report

variable (surroundings : Fault → Text → Text)

/-- The report with one more finding. -/
def add (report : Report) (finding : Finding) : Report where
  total := report.total
  body := report.body ++ finding.render surroundings
  logged := report.logged ++ finding.excerpt.log
  parsed := report.parsed + if finding.passed then 1 else 0
  failed := report.failed + if finding.passed then 0 else 1

/-- One round of the scan: the finding on the first excerpt is added, and a failure is the last one
if the report is to stop early. -/
theorem scan_cons (failFast : Bool) (report : Report) (number : Nat) (excerpt : Excerpt)
    (rest : List Excerpt) : scan surroundings failFast report number (excerpt :: rest)
      = if failFast && !(Finding.mk number excerpt).passed then
          report.add surroundings ⟨number, excerpt⟩
        else
          scan surroundings failFast (report.add surroundings ⟨number, excerpt⟩)
            (number + 1) rest := by
  rw [scan]
  unfold add Finding.render Finding.passed
  cases parseMathBlock excerpt.content with
  | error fault => cases failFast <;> rfl
  | ok read =>
      obtain ⟨block, left⟩ := read
      cases left with
      | nil => cases failFast <;> rfl
      | cons c left => cases failFast <;> rfl

/-- A scan adds the findings one after another, as far as it goes. -/
theorem scan_eq_foldl (failFast : Bool) (report : Report) (number : Nat) (found : List Excerpt) :
    scan surroundings failFast report number found
      = (Finding.cutOff failFast (Finding.numbered number found)).foldl
        (add surroundings) report := by
  -- On the excerpts: the loop and the list break off at the same one.
  induction found generalizing report number with
  | nil => cases failFast <;> rfl
  | cons excerpt rest ih =>
      rw [scan_cons, Finding.numbered, Finding.cutOff_cons, List.foldl_cons]
      by_cases stops : (failFast && !(Finding.mk number excerpt).passed) = true
      · rw [if_pos stops, if_pos stops, List.foldl_nil]
      · rw [if_neg stops, if_neg stops, ih]

/-- What a report comes to by some findings. -/
theorem foldl_add (report : Report) (findings : List Finding) :
    findings.foldl (add surroundings) report =
      { total := report.total
        body := report.body ++ String.join (findings.map (Finding.render surroundings))
        logged := report.logged ++ findings.flatMap fun finding => finding.excerpt.log
        parsed := report.parsed + findings.countP Finding.passed
        failed := report.failed + findings.countP fun finding => !finding.passed } := by
  induction findings generalizing report with
  | nil => simp
  | cons finding findings ih =>
      rw [List.foldl_cons, ih]
      cases passed : finding.passed <;> simp [add, passed, String.append_assoc] <;> omega

/-! ### Documents -/

variable (failFast : Bool) (marker document : Text)

/-- The report on a document is made up of the findings that it comes to. -/
theorem ofDocument_eq : ofDocument surroundings failFast marker document =
    let findings := Finding.cutOff failFast (Finding.ofDocument marker document)
    { total := (excerpts marker document).length
      body := String.join (findings.map (Finding.render surroundings))
      logged := findings.flatMap fun finding => finding.excerpt.log
      parsed := findings.countP Finding.passed
      failed := findings.countP fun finding => !finding.passed } := by
  rw [ofDocument, scan_eq_foldl, foldl_add]
  simp only [String.empty_append, List.nil_append, Nat.zero_add]
  rfl

/-- The body is what is said of the findings, one after another. -/
theorem body_ofDocument : (ofDocument surroundings failFast marker document).body
    = String.join ((Finding.cutOff failFast (Finding.ofDocument marker document)).map
        (Finding.render surroundings)) := by
  rw [ofDocument_eq]

/-- The findings that pass are counted as parsed. -/
theorem parsed_ofDocument : (ofDocument surroundings failFast marker document).parsed
    = (Finding.cutOff failFast (Finding.ofDocument marker document)).countP Finding.passed := by
  rw [ofDocument_eq]

/-- The other findings are counted as failed. -/
theorem failed_ofDocument : (ofDocument surroundings failFast marker document).failed
    = (Finding.cutOff failFast (Finding.ofDocument marker document)).countP
        fun finding => !finding.passed := by
  rw [ofDocument_eq]

/-- The first line gives the number of excerpts, whether or not the report comes to all of them. -/
theorem header_ofDocument (file : Text) :
    (ofDocument surroundings failFast marker document).header file
      = "Scanning " ++ String.ofList file ++ ": " ++ toString (excerpts marker document).length
        ++ " math blocks\n" := by
  rw [header, ofDocument_eq]

end Report

end MathGrammar
