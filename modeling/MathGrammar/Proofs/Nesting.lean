import MathGrammar.Proofs.Calls.Readers
import MathGrammar.Proofs.Command.RoundTrip
import MathGrammar.Proofs.Simulation.Readers

/-! # The limit on nesting

A limit on how many commands may be open at once can only make a run refuse its text. A run under
the lower one of two limits either nests too deeply, and then nothing that was tried around the
command makes up for it, or does just what the run under the higher limit does. Braces inside a
literal open no command, so they are not limited at all. -/

namespace MathGrammar

/-! ### A lower and a higher limit -/

namespace Simulation

/-- A run, and the same run with more room for nesting: the first may nest too deeply where the
second does not. -/
def moreRoom : Simulation where
  Places first second := first = second
  Faults first second := first = second
  Lenient := True
  surplus := 0
  located := by rintro first _ complaint rfl; rfl
  recoverable_eq := by rintro first _ rfl; rfl
  length_eq := by rintro first _ rfl; rfl

variable {α : Type}

/-- Outcomes that correspond are the same, unless the first run nests too deeply. -/
theorem moreRoom_outcomes {first second : Outcome α} (outcomes : moreRoom.Outcomes first second) :
    first = .tooDeep ∨ first = second := by
  cases outcomes with
  | ok value places =>
      obtain rfl : _ = _ := places
      exact .inr rfl
  | fail faults =>
      obtain rfl : _ = _ := faults
      exact .inr rfl
  | tooDeep => exact .inl rfl
  | lenient => exact .inl rfl

/-- A reader that knows of no limit does the same in both runs. -/
theorem moreRoom_related (p : Parser α) : moreRoom.Related p p := by
  intro cursor cursor' places
  obtain rfl : cursor = cursor' := places
  cases p cursor with
  | ok value next => exact .ok value rfl
  | fail fault => exact .fail rfl
  | tooDeep => exact .tooDeep

/-- The parts of a command know of no limit. -/
theorem moreRoom_relatesCommands : moreRoom.RelatesCommands where
  commandName := moreRoom_related _
  params := moreRoom_related _
  repetition := moreRoom_related _
  literalArgument := moreRoom_related _
  openBrace := moreRoom_related _
  closeBrace := moreRoom_related _
  inline := moreRoom_related _

/-- Under a higher limit everything in a block is read alike, unless the lower one refuses it. -/
theorem moreRoom_relatesBlocks {low high : Nat} (le : low ≤ high) :
    moreRoom.RelatesBlocks low high where
  -- Only commands know of the limits.
  command := moreRoom_relatesCommands.command (.inr ⟨trivial, le⟩)
  sign _ _ := moreRoom_related _
  skip _ := moreRoom_related _
  beyond_iff := by
    rintro cursor _ fault _ rfl rfl
    exact Iff.rfl

end Simulation

/-- Of every whole text the first reader reports the nesting, or it gives what the second one gives:
the same value and the same remainder, or the same fault. -/
def Parser.OnlyRefuses {α : Type} (first second : Parser α) : Prop :=
  ∀ text, first.run text = .error .nesting ∨ first.run text = second.run text

/-- Readers that are related in this way differ in nothing but what the first one refuses. -/
theorem Parser.onlyRefuses_of_related {α : Type} {first second : Parser α}
    (related : Simulation.moreRoom.Related first second) : first.OnlyRefuses second := by
  intro text
  unfold Parser.run
  rcases Simulation.moreRoom_outcomes (related (c := .start text) rfl) with deep | same
  · rw [deep]
    exact .inl rfl
  · rw [same]
    exact .inr rfl

/-! ### The main result -/

/-- **A limit on nesting can only refuse.** Under the lower of two limits a run reports the nesting,
or gives what it gives under the higher one. This holds of the readers of whole texts, and of every
construct at every place. A command that was called too deeply is never made up for, whatever calls
it: it ends the run. Braces inside a literal do not count, as every limit leaves room for them. -/
theorem limit_only_refuses (low high : Nat) (le : low ≤ high) :
    (Parser.command low).OnlyRefuses (Parser.command high) ∧
    (Parser.symbol low).OnlyRefuses (Parser.symbol high) ∧
    (Parser.record low).OnlyRefuses (Parser.record high) ∧
    (Parser.production low).OnlyRefuses (Parser.production high) ∧
    (Parser.mathBlock low).OnlyRefuses (Parser.mathBlock high) ∧
    (∀ (construct : Construct) (cursor : Cursor),
      construct.parser low cursor = .tooDeep ∨
        construct.parser low cursor = construct.parser high cursor) ∧
    (∀ (construct : Construct) (cursor : Cursor),
      ∀ call ∈ (Trace.ofConstruct low construct).calls cursor,
        call.ending = .tooDeep → construct.parser low cursor = .tooDeep) ∧
    (∀ text content, BalancedLiteral text content → ∀ after,
      (Parser.argument (Parser.command low)).Reads ('\x7b' :: (text ++ ['\x7d']))
        (.literal content) after) := by
  have elementary : Simulation.moreRoom.RelatesBlocks low high :=
    Simulation.moreRoom_relatesBlocks le
  have symbols : Simulation.moreRoom.RelatesSymbols low high := elementary.symbols
  refine ⟨?_, ?_, ?_, ?_, ?_, ?_, ?_, ?_⟩
  · exact Parser.onlyRefuses_of_related elementary.command
  · exact Parser.onlyRefuses_of_related symbols.symbol
  · exact Parser.onlyRefuses_of_related symbols.record
  · exact Parser.onlyRefuses_of_related elementary.production
  · exact Parser.onlyRefuses_of_related elementary.mathBlock
  · intro construct cursor
    have related := elementary.construct Simulation.moreRoom_relatesCommands construct
    exact Simulation.moreRoom_outcomes (related (c := cursor) rfl)
  · intro construct cursor call mem deep
    -- A call that nests too deeply ends for good, and with it the run.
    have final : call.ending.isFinal = true := by
      rw [deep]
      rfl
    have ending_eq := (Trace.ofConstruct low construct).decides mem final
    rw [deep] at ending_eq
    exact Outcome.ending_eq_tooDeep_iff.1 ending_eq
  · intro text content balanced after
    exact Parser.reads_argument_of_balanced low balanced after

/-- A command in a label takes a limit of two, behind a production whose label is a literal in
braces. With less room the block is refused, and more room changes nothing. -/
theorem limit_of_two_for_command_in_label :
    let text : Text :=
      ("\\begin\x7ba\x7d\\production\x7b\x7b\x7bp\x7d\x7d q\x7d\\a::=\\b\\\\".toList ++
      "\\production\x7b\\q\x7d\\c::=\\d\\\\\\end\x7ba\x7d".toList)
    1 ≤ 2 ∧ 2 ≤ nestingLimit ∧ (Parser.mathBlock 1).run text = .error .nesting ∧
      (Parser.mathBlock 2).run text = parseMathBlock text := by
  intro text
  have enough : 2 ≤ nestingLimit := by decide
  obtain ⟨-, -, -, -, refused, -⟩ := limit_only_refuses 1 2 (by decide)
  obtain ⟨-, -, -, -, agrees, -⟩ := limit_only_refuses 2 nestingLimit enough
  have read : ((Parser.mathBlock 2).run text).isOk = true := by decide +kernel
  have unread : ((Parser.mathBlock 1).run text).isOk = false := by decide +kernel
  refine ⟨by decide, enough, ?_, ?_⟩
  · refine (refused text).resolve_right fun same => ?_
    rw [same, read] at unread
    exact absurd unread (by decide)
  · refine (agrees text).resolve_left fun deep => ?_
    rw [deep] at read
    exact absurd read (by decide)

end MathGrammar
