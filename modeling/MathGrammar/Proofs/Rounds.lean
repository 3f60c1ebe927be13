import MathGrammar.Proofs.Command.Literal
import MathGrammar.Proofs.Progress
import MathGrammar.Proofs.Text
import Mathlib.Order.WellFounded

/-! # Rounds of repetition

Every reader moves forward inside its text or fails ahead of where it started. Hence each repetition
of the notation, and the loop that reads a literal argument brace by brace, gets on in every round
and comes to an end by itself. -/

namespace MathGrammar

/-! ### Readers -/

namespace Reader

/-- How many characters the reader takes up at least. -/
def least : Reader → Nat
  | .skips _ => 0
  | .reads .repetition => 0
  | .reads _ => 1

/-- Every reader takes up as much as it is said to take up at least. -/
theorem parser_advances (limit : Nat) (reader : Reader) :
    (reader.parser limit).Advances reader.least := by
  cases reader with
  | skips spacing => exact (Parser.advances_skip spacing).map _
  | reads construct =>
      cases construct with
      | command => exact (Parser.advances_command limit).map _
      | argument => exact (Parser.advances_argument (Parser.advances_command limit)).map _
      | repetition => exact Parser.advances_repetition.map _
      | terminal => exact (Parser.advances_terminal limit).map _
      | nonterminal => exact (Parser.advances_nonterminal limit).map _
      | record => exact ((Parser.advances_record limit).mono (by decide)).map _
      | vector => exact ((Parser.advances_vector limit).mono (by decide)).map _
      | bracedVector => exact ((Parser.advances_bracedVector limit).mono (by decide)).map _
      | arrow => exact ((Parser.advances_arrow limit).mono (by decide)).map _
      | symbol => exact (Parser.advances_symbol limit).map _
      | union => exact (Parser.advances_unionCases limit).map _
      | rightHandSide => exact (Parser.advances_rightHandSide limit).map _
      | production => exact ((Parser.advances_production limit).mono (by decide)).map _
      | mathBlock => exact (Parser.advances_mathBlock limit).map _
      | equalSign => exact (Parser.advances_equalSign.mono (by decide)).map _
      | bar => exact Parser.advances_bar.map _
      | lineBreak => exact (Parser.advances_lineBreak.mono (by decide)).map _

end Reader

/-! ### Repetitions -/

namespace Parser

variable {α : Type} {item : Parser α}

/-- Reading one item after the other comes to an end by itself, without a guard against items that
take up nothing. -/
structure RepeatsToEnd (item : Parser α) : Prop where
  /-- Every round leaves less of the text, and ends further on in it by as much. -/
  advance : ∀ {cursor next : Cursor} {value : α}, item cursor = .ok value next →
    cursor.offset < next.offset ∧ next.rest.length < cursor.rest.length
  /-- There is no endless sequence of rounds. -/
  wellFounded : WellFounded fun next cursor : Cursor => ∃ value, item cursor = .ok value next
  /-- The guard of a chain never stops it. -/
  not_stalled : ∀ cursor, (chain item cursor).stop ≠ .stalled
  /-- The chain is that of the loop without the guard. -/
  chain_eq : ∀ cursor, chain item cursor = match item cursor with
    | .ok value next => (chain item next).cons value next
    | .fail fault => ⟨[], cursor, .fault fault⟩
    | .tooDeep => ⟨[], cursor, .tooDeep⟩

/-- A reader that takes up a character at least leaves less of the text, further on. -/
theorem Advances.lt {least : Nat} (advances : item.Advances (least + 1)) {cursor next : Cursor}
    {value : α} (read : item cursor = .ok value next) :
    cursor.offset < next.offset ∧ next.rest.length < cursor.rest.length := by
  have bounded := advances cursor
  rw [read] at bounded
  cases bounded with
  | @ok _ count enough there =>
      rw [Cursor.offset_advance, Cursor.rest_advance, List.length_drop]
      omega

/-- Items that always take up something are repeated to the end. -/
theorem Advances.repeatsToEnd {least : Nat} (advances : item.Advances (least + 1)) :
    item.RepeatsToEnd where
  advance := advances.lt
  wellFounded := by
    -- The length of the rest goes down in every round.
    refine Subrelation.wf (fun {next cursor} round => ?_)
      (measure fun cursor : Cursor => cursor.rest.length).wf
    obtain ⟨value, read⟩ := round
    exact (advances.lt read).2
  not_stalled := by
    intro cursor
    induction cursor using chain.induct item with
    | case1 cursor value next read shorter ih =>
        rw [Parser.chain, read]
        simp only [if_pos shorter]
        exact ih
    | case2 cursor value next read longer => exact absurd (advances.lt read).2 longer
    | case3 cursor fault failed =>
        rw [Parser.chain, failed]
        rintro ⟨⟩
    | case4 cursor deep =>
        rw [Parser.chain, deep]
        rintro ⟨⟩
  chain_eq := by
    intro cursor
    rw [Parser.chain]
    cases read : item cursor with
    | ok value next => simp only [if_pos (advances.lt read).2]
    | fail fault => rfl
    | tooDeep => rfl

end Parser

/-! ### Literal arguments -/

/-- One round of the loop that reads a literal argument: from the number of open braces and the text
that is left, over plain characters and a brace that opens or closes an inner pair. -/
inductive LiteralRound (run : Text) : Nat × Text → Nat × Text → Prop where
  /-- One more brace is open. -/
  | opens (plain : run.all isLiteralChar = true) (depth : Nat) (rest : Text) :
    LiteralRound run (depth, run ++ '\x7b' :: rest) (depth + 1, rest)
  /-- The last brace that was opened is closed. -/
  | closes (plain : run.all isLiteralChar = true) (depth : Nat) (rest : Text) :
    LiteralRound run (depth + 1, run ++ '\x7d' :: rest) (depth, rest)

/-- The loop goes from a number of open braces and a text, round by round, to the plain characters
and the length of the literal, or to nothing where the literal breaks off. -/
inductive LiteralLoop : Nat × Text → Option (Text × Nat) → Prop where
  /-- A round, and what the others give. -/
  | round {run : Text} {before after : Nat × Text} {result : Option (Text × Nat)}
    (first : LiteralRound run before after) (others : LiteralLoop after result) :
    LiteralLoop before
      (result.map fun (content, length) => (run ++ content, run.length + 1 + length))
  /-- The brace that closes the literal. -/
  | closed {run : Text} (plain : run.all isLiteralChar = true) (rest : Text) :
    LiteralLoop (0, run ++ '\x7d' :: rest) (some (run, run.length + 1))
  /-- Neither a plain character nor a brace. -/
  | broken {run rest : Text} (plain : run.all isLiteralChar = true) (depth : Nat)
    (other : rest.HeadNot fun c => isLiteralChar c || c == '\x7b' || c == '\x7d') :
    LiteralLoop (depth, run ++ rest) none

/-- Each round over a literal leaves less of the text. -/
theorem LiteralRound.length_lt {run : Text} {before after : Nat × Text}
    (round : LiteralRound run before after) : after.2.length < before.2.length := by
  cases round with
  | opens | closes =>
      simp only [List.length_append, List.length_cons]
      omega

/-- A brace that does not end the loop adds one character to what is scanned behind it. -/
theorem map_plain_map_brace (run : Text) (result : Option (Text × Nat)) :
    ((result.map fun (content, length) => (content, length + 1)).map
        fun (content, length) => (run ++ content, run.length + length))
      = result.map fun (content, length) => (run ++ content, run.length + 1 + length) := by
  cases result with
  | none => rfl
  | some scanned =>
      simp only [Option.map_some, Option.some.injEq, Prod.mk.injEq, true_and]
      omega

/-- A text is a run of plain characters and a text that starts with none. -/
theorem exists_plain_run (text : Text) : ∃ run rest, text = run ++ rest ∧
    run.all isLiteralChar = true ∧ rest.HeadNot isLiteralChar := by
  refine ⟨text.takeWhile isLiteralChar, text.dropWhile isLiteralChar,
    List.takeWhile_append_dropWhile.symm, List.all_takeWhile, ?_⟩
  intro c mem
  have notPlain := List.head?_dropWhile_not isLiteralChar text
  rw [Option.mem_def.1 mem] at notPlain
  simpa using notPlain

/-- The loop ends on every text, with what is scanned. -/
theorem literalLoop_scanLiteral? (depth : Nat) (text : Text) :
    LiteralLoop (depth, text) (scanLiteral? depth text) := by
  -- On the length of the text, as every round leaves less of it.
  induction length_eq : text.length using Nat.strongRecOn generalizing depth text with
  | ind n ih =>
      obtain ⟨run, rest, rfl, plain, head⟩ := exists_plain_run text
      rw [(BalancedLiteral.of_plain plain).scanLiteral?_append]
      rcases rest with _ | ⟨c, rest⟩
      · exact .broken plain depth nofun
      rw [List.length_append, List.length_cons] at length_eq
      by_cases opening : c = '\x7b'
      · subst opening
        rw [scanLiteral?_opening, map_plain_map_brace]
        exact .round (.opens plain depth rest) (ih rest.length (by omega) _ rest rfl)
      by_cases closing : c = '\x7d'
      · subst closing
        cases depth with
        | zero =>
            have closed := LiteralLoop.closed plain rest
            rw [scanLiteral?_closing_zero]
            simpa using closed
        | succ depth =>
            rw [scanLiteral?_closing_succ, map_plain_map_brace]
            exact .round (.closes plain depth rest) (ih rest.length (by omega) _ rest rfl)
      · have notPlain : isLiteralChar c = false := head c rfl
        rw [scanLiteral?_other depth opening closing, if_neg (Bool.eq_false_iff.1 notPlain)]
        refine .broken plain depth ?_
        rintro _ ⟨⟩
        simp [notPlain, opening, closing]

/-! ### The main result -/

/-- **Every reader gets on.** In a text, a reader that succeeds ends further on, spacing and the
mark of repetition apart, and not behind the end; one that fails does so between the place where it
started and the end. Every repetition in the notation therefore gets on in each round and comes to
an end by itself: that of arguments, of symbols, of cases, of fields, of the symbols that a
production defines and of productions, and the loop that reads a literal argument. -/
theorem reader_gets_on_and_repetitions_end (limit : Nat) (text : Text) (offset : Nat)
    (inside : offset ≤ text.length) :
    (∀ reader : Reader, match reader.parser limit (.ofOffset text offset) with
      | .ok _ next => next = .ofOffset text next.offset ∧ offset + reader.least ≤ next.offset ∧
          next.offset ≤ text.length
      | .fail fault => offset ≤ fault.offset ∧ fault.offset ≤ text.length
      | .tooDeep => True) ∧
    (Parser.argument (Parser.command limit)).RepeatsToEnd ∧
    (Parser.symbol limit).RepeatsToEnd ∧
    (Parser.bar >>= fun _ => Parser.unionCase limit).RepeatsToEnd ∧
    (Parser.literal [','] >>= fun _ => Parser.recordField limit).RepeatsToEnd ∧
    (Parser.definedSymbol limit).RepeatsToEnd ∧
    (Parser.production limit).RepeatsToEnd ∧
    (∀ run before after, LiteralRound run before after → after.2.length < before.2.length) ∧
    (∀ depth literal, LiteralLoop (depth, literal) (scanLiteral? depth literal)) := by
  refine ⟨fun reader => ?_, ?_, ?_, ?_, ?_, ?_, ?_, ?_, ?_⟩
  · have bounded := reader.parser_advances limit (.ofOffset text offset)
    generalize reader.parser limit (.ofOffset text offset) = outcome at bounded ⊢
    cases bounded with
    | @ok value count enough there =>
        rw [Cursor.rest_ofOffset, List.length_drop] at there
        refine ⟨Cursor.advance_ofOffset text offset count, ?_, ?_⟩
        · exact Nat.add_le_add_left enough offset
        · rw [Cursor.offset_advance, Cursor.offset_ofOffset]
          omega
    | fail ahead =>
        obtain ⟨notBefore, notBehind⟩ := ahead
        rw [Cursor.rest_ofOffset, List.length_drop] at notBehind
        refine ⟨notBefore, notBehind.trans ?_⟩
        rw [Cursor.offset_ofOffset]
        omega
    | tooDeep => trivial
  · exact (Parser.advances_argument (Parser.advances_command limit)).repeatsToEnd
  · exact (Parser.advances_symbol limit).repeatsToEnd
  · exact (Parser.advances_bar.bind fun _ => Parser.advances_unionCase limit).repeatsToEnd
  · exact ((Parser.advances_literal [',']).bind fun _ =>
      Parser.advances_recordField limit).repeatsToEnd
  · exact (Parser.advances_definedSymbol limit).repeatsToEnd
  · exact (Parser.advances_production limit).repeatsToEnd
  · exact fun run before after round => round.length_lt
  · exact literalLoop_scanLiteral?

/-- An arrow between two bars. -/
theorem arrow_gets_on_between_bars :
    let text : Text := "| \\v \\to \\u32^? | ".toList
    let arrow : Arrow := ⟨⟨['v'], none⟩, ⟨['u', '3', '2'], some .optional⟩⟩
    2 ≤ text.length ∧
      (Reader.reads .arrow).parser nestingLimit (.ofOffset text 2)
        = .ok (.node arrow.toNode) (.ofOffset text 16) ∧
      2 + (Reader.reads .arrow).least ≤ 16 ∧ 16 ≤ text.length ∧
      (Parser.symbol nestingLimit).RepeatsToEnd := by
  intro text arrow
  have inside : 2 ≤ text.length := by decide
  have run : (Reader.reads .arrow).parser nestingLimit (.ofOffset text 2)
      = .ok (.node arrow.toNode) (.ofOffset text 16) := by
    decide +kernel
  obtain ⟨gets_on, -, symbols, -⟩ := reader_gets_on_and_repetitions_end nestingLimit text 2 inside
  have bounds := gets_on (.reads .arrow)
  rw [run] at bounds
  exact ⟨inside, run, bounds.2.1, bounds.2.2, symbols⟩

end MathGrammar
