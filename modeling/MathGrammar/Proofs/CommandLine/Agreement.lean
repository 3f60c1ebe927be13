import MathGrammar.CommandLine.Run
import MathGrammar.Diagnostic
import MathGrammar.Proofs.CommandLine.Findings
import MathGrammar.Proofs.Utf8
import Mathlib.Data.List.Forall2

/-! # The command and the editor agree

What the command prints about a file and what an editor is told about the same text are two accounts
of the same excerpts: the lines of a text do not depend on how they end, and each excerpt is judged
alike. -/

namespace MathGrammar

/-! ### Line ends -/

/-- The character that stands for a single return ends a line as the return does. -/
theorem isLineBreak_lineFeed_of_return (c : Char) :
    isLineBreak (if c = '\r' then '\n' else c) = isLineBreak c := by
  by_cases isReturn : c = '\r'
  · rw [if_pos isReturn, isReturn]
    rfl
  · rw [if_neg isReturn]

/-- Replacing returns by line feeds leaves the lines as they are. -/
theorem Text.lines_universalNewlines (text : Text) : text.universalNewlines.lines = text.lines := by
  induction text using Text.universalNewlines.induct with
  | case1 => rfl
  | case2 rest ih =>
      rw [universalNewlines, lines.eq_2, lines.eq_3 '\n' _ (by simp), if_pos (by decide), ih]
  | case3 c rest noPair ih =>
      have noReturn : (if c = '\r' then '\n' else c) ≠ '\r' := by
        by_cases isReturn : c = '\r'
        · rw [if_pos isReturn]
          decide
        · rwa [if_neg isReturn]
      rw [universalNewlines.eq_3 c rest noPair,
        lines.eq_3 _ _ fun _ isReturn => absurd isReturn noReturn, lines.eq_3 c rest noPair,
        isLineBreak_lineFeed_of_return, ih]
      by_cases ends : isLineBreak c = true
      · rw [if_pos ends, if_pos ends]
      · -- Inside a line the character is no return, so it is left as it is.
        have notReturn : c ≠ '\r' := by
          rintro rfl
          exact ends (by decide)
        rw [if_neg ends, if_neg ends, if_neg notReturn]

/-- The excerpts are those of the lines, and so the way in which the lines end does not matter. -/
theorem excerpts_universalNewlines (marker document : Text) :
    excerpts marker document.universalNewlines = excerpts marker document := by
  rw [excerpts, Text.lines_universalNewlines, excerpts]

/-! ### Excerpts -/

/-- What is printed about an excerpt, and what an editor is told about it: nothing about a block,
and otherwise the same complaint at the same place, which is printed with lines and columns from
one. Behind a fault the text around it follows, as `surroundings` finds it. -/
inductive Excerpt.Reported (surroundings : Fault → Text → Text) (number : Nat) (excerpt : Excerpt) :
    String → Option Diagnostic → Prop where
  /-- The excerpt is a block. -/
  | passed {block : MathBlock} (parsed : parseMathBlock excerpt.content = .ok (block, [])) :
    Reported surroundings number excerpt
      ("\n# " ++ ("Block " ++ toString number) ++ " (line " ++ toString (excerpt.startLine + 1)
        ++ ")\n" ++ String.ofList block.render ++ "\n") none
  /-- The excerpt does not start with a block. -/
  | faulty {fault : Fault} {start stop : Place}
    (parsed : parseMathBlock excerpt.content = .error fault) :
    Reported surroundings number excerpt
      ("\n[Error] Parsing failed in " ++ ("Block " ++ toString number) ++ " "
        ++ ("(line " ++ toString (start.line + 1)
          ++ ", column " ++ toString (start.column + 1) ++ ")")
        ++ ":\n" ++ fault.message excerpt.content ++ "\n"
        ++ String.ofList (surroundings fault excerpt.content) ++ "\n")
      (some ⟨start, stop, "Parse Error: " ++ fault.message excerpt.content⟩)
  /-- Something follows the block at the start of the excerpt. -/
  | unparsed {block : MathBlock} {rest : Text} {start stop : Place} (left : rest ≠ [])
    (parsed : parseMathBlock excerpt.content = .ok (block, rest)) :
    Reported surroundings number excerpt
      ("\n[Error] Unparsed text after " ++ ("Block " ++ toString number) ++ " "
        ++ ("(line " ++ toString (start.line + 1)
          ++ ", column " ++ toString (start.column + 1) ++ ")")
        ++ ": " ++ String.ofList (Text.quoted rest) ++ "\n")
      (some ⟨start, stop, "Parse Error: unparsed text after \\end"⟩)

/-- What a finding says is what the editor is told about its excerpt. -/
theorem reported_render (surroundings : Fault → Text → Text) (finding : Finding) :
    finding.excerpt.Reported surroundings finding.number (finding.render surroundings)
      (Diagnostic.ofExcerpt? finding.excerpt) := by
  simp only [Finding.render, Diagnostic.ofExcerpt?, Excerpt.verdict]
  cases parsed : parseMathBlock finding.excerpt.content with
  | error fault => exact .faulty parsed
  | ok read =>
      obtain ⟨block, rest⟩ := read
      cases rest with
      | nil => exact .passed parsed
      | cons c rest => exact .unparsed (List.cons_ne_nil c rest) parsed

/-- An excerpt is reported as failing exactly when there is a diagnostic for it. -/
theorem isSome_ofExcerpt? (finding : Finding) :
    (Diagnostic.ofExcerpt? finding.excerpt).isSome = !finding.passed := by
  unfold Diagnostic.ofExcerpt? Excerpt.verdict Finding.passed
  cases parseMathBlock finding.excerpt.content with
  | error fault => rfl
  | ok read =>
      obtain ⟨block, rest⟩ := read
      cases rest <;> rfl

/-! ### Findings -/

namespace Finding

/-- The numbers go on from the first one. -/
theorem numbered_eq_map_zipIdx (start : Nat) (found : List Excerpt) :
    numbered (start + 1) found
      = (found.zipIdx start).map fun (excerpt, index) => ⟨index + 1, excerpt⟩ := by
  induction found generalizing start with
  | nil => rfl
  | cons excerpt found ih =>
      rw [numbered, ih, List.zipIdx_cons, List.map_cons]

variable (marker document : Text)

/-- There is a finding on each excerpt, and the first one has number one. -/
theorem ofDocument_eq_map_zipIdx :
    ofDocument marker document = (excerpts marker document).zipIdx.map
      fun (excerpt, index) => ⟨index + 1, excerpt⟩ :=
  numbered_eq_map_zipIdx 0 _

/-- The findings are on the excerpts, in order. -/
theorem map_excerpt_ofDocument :
    (ofDocument marker document).map excerpt = excerpts marker document := by
  rw [ofDocument_eq_map_zipIdx, List.map_map]
  exact List.zipIdx_map_fst 0 _

/-- The diagnostics are those of the findings. -/
theorem diagnostics_eq_filterMap :
    diagnostics marker document = (ofDocument marker document).filterMap
      fun finding => Diagnostic.ofExcerpt? finding.excerpt := by
  rw [diagnostics, ← map_excerpt_ofDocument, List.filterMap_map]
  rfl

/-- The excerpts that fail are counted by the diagnostics. -/
theorem countP_failed_ofDocument : ((ofDocument marker document).countP fun finding =>
    !finding.passed) = (diagnostics marker document).length := by
  rw [diagnostics_eq_filterMap, List.length_filterMap_eq_countP]
  simp only [isSome_ofExcerpt?]

/-- Every finding either passes or fails. -/
theorem countP_passed_add_countP_failed : (ofDocument marker document).countP passed
    + ((ofDocument marker document).countP fun finding => !finding.passed)
      = (excerpts marker document).length := by
  have length_eq : (ofDocument marker document).length = (excerpts marker document).length := by
    rw [← map_excerpt_ofDocument, List.length_map]
  rw [← length_eq, List.length_eq_countP_add_countP passed]
  simp only [Bool.not_eq_true, Bool.decide_eq_false]

end Finding

/-! ### Runs -/

/-- A single argument that is no option names the file of a run without options. -/
theorem ofArguments_singleton {file : Text} (marker : Text)
    (isWord : ArgumentToken.ofArgument file = .ok (.word file)) :
    Request.ofArguments marker [file] = .ok (.scan ⟨file, some marker, false, false⟩) := by
  have notSeparator : file ≠ ['-', '-'] := by
    rintro rfl
    exact absurd isWord (by decide)
  rw [Request.ofArguments, ArgumentToken.ofArguments, if_neg notSeparator, isWord]
  rfl

variable (surroundings : Fault → Text → Text)

/-- A run on a file that is text reports on the text, whose returns count as line feeds. -/
theorem ofArguments_readable {chosen : Option Text} {lookup : Text → Contents} {args : List Text}
    {options : Options} {text : Text} {bytes : List UInt8}
    (request : Request.ofArguments (chosen.getD defaultMarker) args = .ok (.scan options))
    (marker_eq : options.marker = some (chosen.getD defaultMarker))
    (holds : lookup options.file = .bytes bytes) (decoded : Utf8.decode bytes = .ok text) :
    Run.ofArguments chosen lookup args surroundings
      = Run.report surroundings options (chosen.getD defaultMarker) text.universalNewlines := by
  rw [Run.ofArguments, request, Run.ofRequest, holds, Run.ofContents, decoded]
  show Run.scan surroundings options text.universalNewlines = _
  rw [Run.scan, marker_eq]

/-- A run on a file of some text reports on that text, whatever ends its lines. -/
theorem ofArguments_file (chosen : Option Text) {lookup : Text → Contents} {file document : Text}
    (isWord : ArgumentToken.ofArgument file = .ok (.word file))
    (holds : lookup file = .bytes (Utf8.encode document)) :
    Run.ofArguments chosen lookup [file] surroundings
      = Run.report surroundings ⟨file, some (chosen.getD defaultMarker), false, false⟩
          (chosen.getD defaultMarker) document := by
  rw [ofArguments_readable surroundings (ofArguments_singleton _ isWord) rfl holds
    (Utf8.decode_encode document)]
  simp only [Run.report, Report.ofDocument, excerpts_universalNewlines]

/-- **The command and the editor agree.** A run on a file that holds a document in UTF-8 says of the
excerpts in turn what the diagnostics of the document say: it reports a failure exactly where there
is a diagnostic, at the same place and for the same reason, counts the diagnostics as failures, and
succeeds exactly if there are none. -/
theorem run_agrees_with_diagnostics (chosen : Option Text) (lookup : Text → Contents)
    (file document : Text)
    (isWord : ArgumentToken.ofArgument file = .ok (.word file))
    (holds : lookup file = .bytes (Utf8.encode document)) :
    let marker := chosen.getD defaultMarker
    let blocks := excerpts marker document
    let found := diagnostics marker document
    ∃ (entries : List (String × Option Diagnostic)) (parsed : Nat),
      Run.ofArguments chosen lookup [file] surroundings
        = ⟨.exit (if found = [] then 0 else 1),
          "Scanning " ++ String.ofList file ++ ": " ++ toString blocks.length ++ " math blocks\n"
            ++ String.join (entries.map Prod.fst)
            ++ ("\nDone. " ++ toString parsed ++ " parsed, " ++ toString found.length
              ++ " failed.\n"), ""⟩ ∧
      parsed + found.length = blocks.length ∧
      entries.filterMap Prod.snd = found ∧
      List.Forall₂ (fun block entry => block.1.Reported surroundings (block.2 + 1) entry.1 entry.2)
        blocks.zipIdx entries := by
  intro marker blocks found
  let report := Report.ofDocument surroundings false marker document
  have failed_eq : report.failed = found.length := by
    rw [Report.failed_ofDocument]
    exact Finding.countP_failed_ofDocument marker document
  have parsed_eq : report.parsed = (Finding.ofDocument marker document).countP Finding.passed :=
    Report.parsed_ofDocument surroundings false marker document
  have status_eq : report.status = if found = [] then 0 else 1 := by
    rw [Report.status, failed_eq]
    simp only [List.length_eq_zero_iff]
  refine ⟨(Finding.ofDocument marker document).map fun finding =>
    (finding.render surroundings, Diagnostic.ofExcerpt? finding.excerpt), report.parsed,
    ?_, ?_, ?_, ?_⟩
  · have body_eq : report.body = String.join
        ((Finding.ofDocument marker document).map (Finding.render surroundings)) :=
      Report.body_ofDocument surroundings false marker document
    rw [ofArguments_file surroundings chosen isWord holds, ← status_eq, ← failed_eq, List.map_map]
    show (⟨.exit report.status, report.render file, ""⟩ : Run) = _
    rw [Report.render, Report.header_ofDocument, body_eq]
    rfl
  · rw [parsed_eq, ← Finding.countP_failed_ofDocument]
    exact Finding.countP_passed_add_countP_failed marker document
  · rw [List.filterMap_map]
    exact (Finding.diagnostics_eq_filterMap marker document).symm
  · rw [Finding.ofDocument_eq_map_zipIdx, List.map_map, List.forall₂_map_right_iff,
      List.forall₂_same]
    rintro ⟨excerpt, index⟩ -
    exact reported_render surroundings ⟨index + 1, excerpt⟩

/-- Lines that end in line feeds, in returns and in pairs of both; the first block has no
production, and text follows the third. -/
theorem run_agrees_on_mixed_line_ends :
    let file := "a.rst".toList
    let bare := ".. math::\r\n\\begin\x7ba\x7d\r\\end\x7ba\x7d\n\n"
    let block := "\\begin\x7ba\x7d\\production\x7bp\x7d\\v::=\\T\\\\\r\n\\end\x7ba\x7d\r\n"
    let document := (bare ++ ".. math::\n" ++ block ++ "\r .. math::\r" ++ block ++ " left").toList
    let lookup := fun _ : Text => Contents.bytes (Utf8.encode document)
    ArgumentToken.ofArgument file = .ok (.word file) ∧
      lookup file = .bytes (Utf8.encode document) ∧
      (diagnostics defaultMarker document).map Diagnostic.start = [⟨2, 0⟩, ⟨11, 1⟩] ∧
      (Run.ofArguments none lookup [file]).ending = .exit 1 := by
  intro file bare block document lookup
  have isWord : ArgumentToken.ofArgument file = .ok (.word file) := by decide
  have holds : lookup file = .bytes (Utf8.encode document) := rfl
  have starts : (diagnostics defaultMarker document).map Diagnostic.start = [⟨2, 0⟩, ⟨11, 1⟩] := by
    decide +kernel
  have complains : diagnostics defaultMarker document ≠ [] := by
    intro silent
    rw [silent] at starts
    exact absurd starts (by decide)
  obtain ⟨entries, parsed, run_eq, -⟩ :=
    run_agrees_with_diagnostics Fault.surroundings none lookup file document isWord holds
  refine ⟨isWord, holds, starts, ?_⟩
  rw [run_eq]
  exact congrArg Ending.exit (if_neg complains)

end MathGrammar
