import MathGrammar.Proofs.CommandLine.Agreement
import MathGrammar.Proofs.Document.Diagnostics

/-! # Stopping at the first failure

A run that is to stop early is a full run cut off: it goes on up to the first excerpt that is not a
block, says the same about the excerpts up to there, and ends with the same exit status. Both runs
are one loop, which counts as it goes and breaks off at a failure when it is told to; that it comes
to the findings of the full run up to the first failure is shown along its rounds. -/

namespace MathGrammar

namespace Finding

/-- An excerpt fails unless it is a block and nothing is left of it behind the block. -/
theorem not_passed_eq : (fun finding => !finding.passed)
    = (fun excerpt : Excerpt => decide (excerpt.remainder? ≠ some [])) ∘ excerpt := by
  funext finding
  rw [Function.comp_apply]
  unfold passed Excerpt.remainder?
  cases parseMathBlock finding.excerpt.content with
  | error fault => rfl
  | ok read =>
      obtain ⟨block, rest⟩ := read
      cases rest <;> rfl

/-! ### Findings up to the first failure -/

/-- Where the first finding is that is no block, or behind the last one. -/
def firstFailure (findings : List Finding) : Nat := findings.findIdx fun finding => !finding.passed

variable {finding : Finding} (findings : List Finding)

/-- Behind a block the first failure is one further on. -/
theorem firstFailure_cons_of_passed (passed : finding.passed = true) :
    firstFailure (finding :: findings) = firstFailure findings + 1 := by
  rw [firstFailure, List.findIdx_cons, passed]
  rfl

/-- A failure at the start is the first one. -/
theorem firstFailure_cons_of_failed (failed : finding.passed = false) :
    firstFailure (finding :: findings) = 0 := by
  rw [firstFailure, List.findIdx_cons, failed]
  rfl

/-- Behind a block the findings go on. -/
theorem upToFailure_cons_of_passed (passed : finding.passed = true) :
    upToFailure (finding :: findings) = finding :: upToFailure findings := by
  rw [upToFailure, if_pos passed]

/-- Nothing comes behind a failure. -/
theorem upToFailure_cons_of_failed (failed : finding.passed = false) :
    upToFailure (finding :: findings) = [finding] := by
  rw [upToFailure, failed, if_neg Bool.false_ne_true]

/-- The findings up to the first failure are the first ones of all. -/
theorem upToFailure_eq_take : upToFailure findings = findings.take (firstFailure findings + 1) := by
  induction findings with
  | nil => rfl
  | cons finding findings ih =>
      cases passed : finding.passed with
      | true =>
          rw [upToFailure_cons_of_passed _ passed, firstFailure_cons_of_passed _ passed,
            List.take_succ_cons, ih]
      | false =>
          rw [upToFailure_cons_of_failed _ passed, firstFailure_cons_of_failed _ passed]
          rfl

/-- All findings before the first failure are blocks. -/
theorem countP_passed_upToFailure :
    (upToFailure findings).countP Finding.passed = firstFailure findings := by
  induction findings with
  | nil => rfl
  | cons finding findings ih =>
      cases passed : finding.passed with
      | true =>
          rw [upToFailure_cons_of_passed _ passed, firstFailure_cons_of_passed _ passed,
            List.countP_cons_of_pos passed, ih]
      | false =>
          rw [upToFailure_cons_of_failed _ passed, firstFailure_cons_of_failed _ passed,
            List.countP_cons_of_neg (by simp [passed]), List.countP_nil]

/-- Of the failures only the first one is left. -/
theorem countP_failed_upToFailure :
    (upToFailure findings).countP (fun finding => !finding.passed)
      = min 1 (findings.countP fun finding => !finding.passed) := by
  induction findings with
  | nil => rfl
  | cons finding findings ih =>
      cases passed : finding.passed with
      | true =>
          rw [upToFailure_cons_of_passed _ passed, List.countP_cons_of_neg (by simp [passed]),
            List.countP_cons_of_neg (by simp [passed]), ih]
      | false =>
          rw [upToFailure_cons_of_failed _ passed, List.countP_cons_of_pos (by simp [passed]),
            List.countP_cons_of_pos (by simp [passed]), List.countP_nil]
          omega

/-- Without a failure the findings go on to the end. -/
theorem upToFailure_of_passed {findings : List Finding}
    (passed : ∀ finding ∈ findings, finding.passed = true) : upToFailure findings = findings := by
  have last : firstFailure findings = findings.length :=
    List.findIdx_eq_length.2 fun finding mem => by rw [passed finding mem]; rfl
  rw [upToFailure_eq_take, last, List.take_of_length_le (Nat.le_succ _)]

/-! ### Findings on documents -/

variable (marker document : Text)

/-- The first failure is that of the first excerpt that is no block. -/
theorem firstFailure_ofDocument : firstFailure (ofDocument marker document)
    = (excerpts marker document).findIdx fun excerpt => excerpt.remainder? ≠ some [] := by
  rw [← map_excerpt_ofDocument, List.findIdx_map, firstFailure, not_passed_eq]

/-- The failures are those of the excerpts that are no blocks. -/
theorem countP_failed_eq_countP_excerpts :
    ((ofDocument marker document).countP fun finding => !finding.passed)
      = (excerpts marker document).countP fun excerpt => excerpt.remainder? ≠ some [] := by
  rw [← map_excerpt_ofDocument, List.countP_map, not_passed_eq]

/-- Every excerpt is reported on. -/
theorem forall₂_reported (surroundings : Fault → Text → Text) : List.Forall₂
    (fun block report => ∃ problem, block.1.Reported surroundings (block.2 + 1) report problem)
    (excerpts marker document).zipIdx ((ofDocument marker document).map (render surroundings)) := by
  rw [ofDocument_eq_map_zipIdx, List.map_map, List.forall₂_map_right_iff, List.forall₂_same]
  rintro ⟨block, index⟩ -
  exact ⟨_, reported_render surroundings ⟨index + 1, block⟩⟩

end Finding

/-! ### Reports that stop early -/

namespace Report

variable (surroundings : Fault → Text → Text) (marker document : Text)

/-- What a full report says up to some finding, and what it says behind that. -/
theorem body_ofDocument_eq_append (count : Nat) :
    let reports := (Finding.ofDocument marker document).map (Finding.render surroundings)
    (ofDocument surroundings false marker document).body
      = String.join (reports.take count) ++ String.join (reports.drop count) := by
  intro reports
  rw [← String.join_append, List.take_append_drop]
  exact body_ofDocument surroundings false marker document

/-- What is said before the end is cut off behind the first failure. -/
theorem body_ofDocument_failFast : (ofDocument surroundings true marker document).body
    = String.join (((Finding.ofDocument marker document).map (Finding.render surroundings)).take
        (Finding.firstFailure (Finding.ofDocument marker document) + 1)) := by
  rw [body_ofDocument, Finding.cutOff, if_pos rfl, Finding.upToFailure_eq_take, List.map_take]

/-- The blocks before the first failure are counted. -/
theorem parsed_ofDocument_failFast : (ofDocument surroundings true marker document).parsed
    = Finding.firstFailure (Finding.ofDocument marker document) := by
  rw [parsed_ofDocument]
  exact Finding.countP_passed_upToFailure _

/-- Of the failures only the first is counted. -/
theorem failed_ofDocument_failFast : (ofDocument surroundings true marker document).failed
    = min 1 (ofDocument surroundings false marker document).failed := by
  rw [failed_ofDocument, failed_ofDocument]
  exact Finding.countP_failed_upToFailure _

/-- Stopping early does not change the exit status. -/
theorem status_ofDocument_failFast : (ofDocument surroundings true marker document).status
    = (ofDocument surroundings false marker document).status := by
  have zero_iff : min 1 (ofDocument surroundings false marker document).failed = 0
      ↔ (ofDocument surroundings false marker document).failed = 0 := by omega
  rw [status, status, failed_ofDocument_failFast]
  exact if_congr zero_iff rfl rfl

/-- Without a failure there is nothing to stop for. -/
theorem ofDocument_failFast_of_failed_eq_zero
    (none : (ofDocument surroundings false marker document).failed = 0) :
    ofDocument surroundings true marker document
      = ofDocument surroundings false marker document := by
  rw [failed_ofDocument] at none
  have passed : ∀ finding ∈ Finding.ofDocument marker document, finding.passed = true := by
    intro finding mem
    have notFailed := List.countP_eq_zero.1 none finding mem
    simpa using notFailed
  have same : Finding.cutOff true (Finding.ofDocument marker document)
      = Finding.cutOff false (Finding.ofDocument marker document) :=
    Finding.upToFailure_of_passed passed
  rw [ofDocument_eq, same, ofDocument_eq]

end Report

/-! ### Runs -/

/-- The name of a file and the option to stop early ask for a run that stops early. -/
theorem ofArguments_failFast {file : Text} (marker : Text)
    (isWord : ArgumentToken.ofArgument file = .ok (.word file)) :
    Request.ofArguments marker [file, "--fail-fast".toList]
      = .ok (.scan ⟨file, some marker, true, false⟩) := by
  have notSeparator : file ≠ ['-', '-'] := by
    rintro rfl
    exact absurd isWord (by decide)
  rw [Request.ofArguments, ArgumentToken.ofArguments, if_neg notSeparator, isWord]
  rfl

/-- **A run that stops early is a full run cut off.** On a file that is text in UTF-8 both runs end
with the same exit status, which is one if an excerpt fails. The full run reports on every excerpt
and says in the end how many passed and how many failed. The other one shows the same up to the
report on the first excerpt that fails, and then that those before it passed and one failed; where
none fails, there is no difference. -/
theorem run_failFast_truncates (surroundings : Fault → Text → Text) (chosen : Option Text)
    (lookup : Text → Contents) (file text : Text) (bytes : List UInt8)
    (isWord : ArgumentToken.ofArgument file = .ok (.word file))
    (holds : lookup file = .bytes bytes) (decoded : Utf8.decode bytes = .ok text) :
    let blocks := excerpts (chosen.getD defaultMarker) text.universalNewlines
    let fails (block : Excerpt) : Bool := block.remainder? ≠ some []
    let first := blocks.findIdx fails
    let failed := blocks.countP fails
    let header : String :=
      "Scanning " ++ String.ofList file ++ ": " ++ toString blocks.length ++ " math blocks\n"
    let done (parsed failed : Nat) : String :=
      "\nDone. " ++ toString parsed ++ " parsed, " ++ toString failed ++ " failed.\n"
    let full := Run.ofArguments chosen lookup [file] surroundings
    let short := Run.ofArguments chosen lookup [file, "--fail-fast".toList] surroundings
    ∃ (reports : List String) (parsed : Nat),
      List.Forall₂ (fun block report => ∃ problem,
        block.1.Reported surroundings (block.2 + 1) report problem) blocks.zipIdx reports ∧
      parsed + failed = blocks.length ∧
      full.stdout = header ++ String.join (reports.take (first + 1))
        ++ String.join (reports.drop (first + 1)) ++ done parsed failed ∧
      short.stdout = header ++ String.join (reports.take (first + 1)) ++ done first (min 1 failed) ∧
      full.ending = .exit (if failed = 0 then 0 else 1) ∧ short.ending = full.ending ∧
      (failed = 0 → short = full) := by
  intro blocks fails first failed header done full short
  let marker := chosen.getD defaultMarker
  let document := text.universalNewlines
  let whole := Report.ofDocument surroundings false marker document
  let early := Report.ofDocument surroundings true marker document
  let reports := (Finding.ofDocument marker document).map (Finding.render surroundings)
  have full_eq : full = ⟨.exit whole.status, whole.render file, ""⟩ :=
    ofArguments_readable surroundings (ofArguments_singleton marker isWord) rfl holds decoded
  have short_eq : short = ⟨.exit early.status, early.render file, ""⟩ :=
    ofArguments_readable surroundings (ofArguments_failFast marker isWord) rfl holds decoded
  have first_eq : Finding.firstFailure (Finding.ofDocument marker document) = first :=
    Finding.firstFailure_ofDocument marker document
  have failed_eq : whole.failed = failed :=
    (Report.failed_ofDocument surroundings false marker document).trans
      (Finding.countP_failed_eq_countP_excerpts marker document)
  have short_failed : early.failed = min 1 failed := by
    rw [← failed_eq]
    exact Report.failed_ofDocument_failFast surroundings marker document
  refine ⟨reports, whole.parsed, Finding.forall₂_reported marker document surroundings,
    ?_, ?_, ?_, ?_, ?_, ?_⟩
  · have total := Finding.countP_passed_add_countP_failed marker document
    rw [Finding.countP_failed_eq_countP_excerpts] at total
    rw [← total]
    exact congrArg (· + failed) (Report.parsed_ofDocument surroundings false marker document)
  · have body_eq : whole.body
        = String.join (reports.take (first + 1)) ++ String.join (reports.drop (first + 1)) :=
      Report.body_ofDocument_eq_append surroundings marker document (first + 1)
    have joined : header ++ whole.body = header ++ String.join (reports.take (first + 1))
        ++ String.join (reports.drop (first + 1)) := by
      rw [body_eq]
      exact String.append_assoc.symm
    rw [full_eq, ← joined, ← failed_eq]
    show whole.render file = _
    rw [Report.render, Report.header_ofDocument]
    rfl
  · have body_eq := Report.body_ofDocument_failFast surroundings marker document
    have parsed_eq : early.parsed = first :=
      (Report.parsed_ofDocument_failFast surroundings marker document).trans first_eq
    rw [first_eq] at body_eq
    rw [short_eq]
    show early.render file = _
    rw [Report.render, Report.header_ofDocument, Report.footer, parsed_eq, short_failed, body_eq]
  · rw [full_eq, Report.status, failed_eq]
  · rw [full_eq, short_eq]
    exact congrArg Ending.exit (Report.status_ofDocument_failFast surroundings marker document)
  · intro none
    have same : early = whole := Report.ofDocument_failFast_of_failed_eq_zero surroundings marker
      document (failed_eq.trans none)
    rw [full_eq, short_eq, same]

/-- The first of three blocks passes; text follows the second one, and the third one is none. -/
theorem run_failFast_truncates_behind_second_block :
    let file := "a.rst".toList
    let block := "\\begin\x7ba\x7d\\production\x7bp\x7d\\v::=\\T\\\\\\end\x7ba\x7d"
    let document : Text := (".. math::\r\n" ++ block ++ "\r\n\n.. math::\r" ++ block
      ++ " left\n\n.. math::\nx").toList
    let lookup := fun _ : Text => Contents.bytes (Utf8.encode document)
    ArgumentToken.ofArgument file = .ok (.word file) ∧
      lookup file = .bytes (Utf8.encode document) ∧
      Utf8.decode (Utf8.encode document) = .ok document ∧
      ∃ shown rest,
        (Run.ofArguments none lookup [file]).stdout
          = shown ++ rest ++ "\nDone. 1 parsed, 2 failed.\n" ∧
        (Run.ofArguments none lookup [file, "--fail-fast".toList]).stdout
          = shown ++ "\nDone. 1 parsed, 1 failed.\n" ∧
        (Run.ofArguments none lookup [file, "--fail-fast".toList]).ending = .exit 1 := by
  intro file block document lookup
  have isWord : ArgumentToken.ofArgument file = .ok (.word file) := by decide
  have holds : lookup file = .bytes (Utf8.encode document) := rfl
  have decoded : Utf8.decode (Utf8.encode document) = .ok document := Utf8.decode_encode document
  let fails (block : Excerpt) : Bool := block.remainder? ≠ some []
  have outcomes : (excerpts defaultMarker document.universalNewlines).map fails
      = [false, true, true] := by decide +kernel
  have length_eq : (excerpts defaultMarker document.universalNewlines).length = 3 := by
    rw [← List.length_map fails, outcomes]
    rfl
  have first_eq : (excerpts defaultMarker document.universalNewlines).findIdx fails = 1 := by
    have index_eq := congrArg (List.findIdx id) outcomes
    rwa [List.findIdx_map] at index_eq
  have failed_eq : (excerpts defaultMarker document.universalNewlines).countP fails = 2 := by
    have count_eq := congrArg (List.countP id) outcomes
    rwa [List.countP_map] at count_eq
  -- From here on only these facts about the document matter.
  clear_value lookup document
  obtain ⟨reports, parsed, -, total, full_eq, short_eq, full_ending, ending_eq, -⟩ :=
    run_failFast_truncates Fault.surroundings none lookup file document _ isWord holds decoded
  rw [Option.getD_none] at total full_eq short_eq full_ending
  rw [failed_eq, length_eq] at total
  obtain rfl : parsed = 1 := by omega
  rw [first_eq, failed_eq] at full_eq short_eq
  have notNone : (excerpts defaultMarker document.universalNewlines).countP fails ≠ 0 := by
    rw [failed_eq]
    decide
  exact ⟨isWord, holds, decoded, _, _, full_eq, short_eq,
    ending_eq.trans (full_ending.trans (congrArg Ending.exit (if_neg notNone)))⟩

end MathGrammar
