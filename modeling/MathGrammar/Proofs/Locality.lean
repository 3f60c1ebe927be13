import MathGrammar.Proofs.Scan
import MathGrammar.Proofs.Simulation.Readers

/-! # Locality

What a reader finds depends on the text from its place on and on nothing else. A run at an offset
of a text is the run at the start of the rest of that text, with every place moved on by the offset;
so readers that are fed the remainder of the one before agree with readers that follow one another
in the whole text. -/

namespace MathGrammar

/-! ### Places further on -/

/-- The place `count` characters further on, in a text with as many characters more in front. -/
def Cursor.shift (count : Nat) (cursor : Cursor) : Cursor :=
  { cursor with offset := cursor.offset + count }

/-- The same fault `count` characters further on. -/
def Fault.shift (count : Nat) (fault : Fault) : Fault :=
  { fault with offset := fault.offset + count }

/-- The same outcome with its place, or its fault, `count` characters further on. -/
def Outcome.shift {α : Type} (count : Nat) : Outcome α → Outcome α
  | .ok value next => .ok value (next.shift count)
  | .fail fault => .fail (fault.shift count)
  | .tooDeep => .tooDeep

/-- Moving a place on leaves the same text behind it. -/
@[simp] theorem Cursor.rest_shift (count : Nat) (cursor : Cursor) :
    (cursor.shift count).rest = cursor.rest := rfl

/-- Moving a place on adds to its offset. -/
@[simp] theorem Cursor.offset_shift (count : Nat) (cursor : Cursor) :
    (cursor.shift count).offset = cursor.offset + count := rfl

/-- Advancing and moving on commute. -/
theorem Cursor.advance_shift (length count : Nat) (cursor : Cursor) :
    (cursor.shift count).advance length = (cursor.advance length).shift count := by
  simp only [Cursor.advance, Cursor.shift, Cursor.mk.injEq, and_true]
  omega

/-- Moving on twice is moving on by the sum. -/
theorem Cursor.shift_shift (count more : Nat) (cursor : Cursor) :
    (cursor.shift count).shift more = cursor.shift (count + more) := by
  simp only [Cursor.shift, Nat.add_assoc]

/-- Moving an outcome on twice is moving it on by the sum. -/
theorem Outcome.shift_shift {α : Type} (count more : Nat) (outcome : Outcome α) :
    (outcome.shift count).shift more = outcome.shift (count + more) := by
  cases outcome with
  | ok value next => simp only [shift, Cursor.shift_shift]
  | fail fault => simp only [shift, Fault.shift, Nat.add_assoc]
  | tooDeep => rfl

/-! ### The translation -/

namespace Simulation

/-- A text, and the same text with `count` characters more in front of the place. -/
def translation (count : Nat) : Simulation where
  Places first second := second = first.shift count
  Faults first second := second = first.shift count
  Lenient := False
  surplus := 0
  located := by rintro first _ complaint rfl; rfl
  recoverable_eq := by rintro first _ rfl; rfl
  length_eq := by rintro first _ rfl; rfl

variable {count : Nat} {α : Type}

/-- Related outcomes are the same outcome at two places. -/
theorem translation_outcomes {first second : Outcome α}
    (outcomes : (translation count).Outcomes first second) : second = first.shift count := by
  cases outcomes with
  | ok value places => rw [show _ = _ from places, Outcome.shift]
  | fail faults => rw [show _ = _ from faults, Outcome.shift]
  | tooDeep => rfl
  | lenient lenient => exact lenient.elim

/-- A scanner finds the same in the same rest of a text. -/
theorem translation_related_scan (look : Text → Except Complaint (α × Nat)) :
    (translation count).Related (Parser.scan look) (Parser.scan look) := by
  rintro cursor _ rfl
  unfold Parser.scan
  rw [Cursor.rest_shift]
  cases look cursor.rest with
  | ok result => exact .ok result.1 (Cursor.advance_shift result.2 count cursor)
  | error complaint => exact .fail rfl

/-- The parts of a command are scanned, and so they are read alike further on. -/
theorem translation_relatesCommands : (translation count).RelatesCommands where
  commandName := Parser.commandName_eq_scan ▸ translation_related_scan _
  params := Parser.params_eq_scan ▸ translation_related_scan _
  repetition := Parser.repetition_eq_scan ▸ translation_related_scan _
  literalArgument := Parser.literalArgument_eq_scan ▸ translation_related_scan _
  openBrace := Parser.literal_eq_scan _ ▸ translation_related_scan _
  closeBrace := Parser.literal_eq_scan _ ▸ translation_related_scan _
  inline := Parser.skip_eq_scan _ ▸ translation_related_scan _

/-- Both offsets grow by the same amount, so the deeper of two faults stays the deeper one. -/
theorem translation_relatesBlocks (limit : Nat) :
    (translation count).RelatesBlocks limit limit where
  command := translation_relatesCommands.command (.inl rfl)
  sign _ _ := Parser.literal_eq_scan _ ▸ translation_related_scan _
  skip _ := Parser.skip_eq_scan _ ▸ translation_related_scan _
  beyond_iff := by
    rintro cursor _ fault _ rfl rfl
    simp only [Cursor.shift, Fault.shift]
    omega

end Simulation

/-! ### Readers in sequence -/

/-- The readers: those of the constructs, and those of the two kinds of spacing. -/
inductive Reader where
  /-- A construct is read. -/
  | reads (construct : Construct)
  /-- Spacing is skipped. -/
  | skips (spacing : Spacing)
deriving DecidableEq, Repr

namespace Reader

/-- What the reader does at a place. -/
def parser (limit : Nat) : Reader → Parser Reading
  | .reads construct => construct.parser limit
  | .skips spacing => (Parser.skip spacing).map fun _ => .nothing

/-- Each reader from the place at which the one before it ended. -/
def inSequence (limit : Nat) : List Reader → Parser (List Reading)
  | [] => pure []
  | reader :: readers => do
    let reading ← reader.parser limit
    let readings ← inSequence limit readers
    return reading :: readings

/-- Each reader from the start of the text that the one before it left over. The places of the
later readers are moved on by what the earlier ones took up. -/
def byRemainder (limit : Nat) : List Reader → Text → Outcome (List Reading)
  | [], text => .ok [] (.start text)
  | reader :: readers, text =>
    (reader.parser limit (.start text)).bind fun reading next =>
      ((byRemainder limit readers next.rest).shift next.offset).bind fun readings last =>
        .ok (reading :: readings) last

/-- Each reader run on the whole text that the one before it left over: the readings with what is
left in the end, or the fault of the run that fails, at its place in the text which that run was
given. -/
def byRuns (limit : Nat) : List Reader → Text → Except Fault (List Reading × Text)
  | [], text => .ok ([], text)
  | reader :: readers, text =>
    match (reader.parser limit).run text with
    | .error fault => .error fault
    | .ok (reading, rest) =>
      match byRuns limit readers rest with
      | .error fault => .error fault
      | .ok (readings, last) => .ok (reading :: readings, last)

/-- Whole runs one after another give the readings and the remainder of the places that are moved
on. -/
theorem byRuns_eq_ok_iff {limit : Nat} {readers : List Reader} {text rest : Text}
    {readings : List Reading} : byRuns limit readers text = .ok (readings, rest) ↔
      ∃ last, byRemainder limit readers text = .ok readings last ∧ last.rest = rest := by
  induction readers generalizing text readings with
  | nil => simp [byRuns, byRemainder, eq_comm]
  | cons reader readers ih =>
      rw [byRuns, byRemainder, Parser.run]
      cases reader.parser limit (.start text) with
      | fail fault => simp
      | tooDeep => simp
      | ok reading next =>
          rw [Outcome.bind_ok]
          constructor
          · intro run
            cases others : byRuns limit readers next.rest with
            | error fault => simp [others] at run
            | ok result =>
                simp only [others, Except.ok.injEq, Prod.mk.injEq] at run
                obtain ⟨rfl, rfl⟩ := run
                obtain ⟨last, read, last_eq⟩ := ih.1 others
                rw [read]
                exact ⟨_, rfl, last_eq⟩
          · rintro ⟨last, run, rfl⟩
            cases others : byRemainder limit readers next.rest with
            | fail fault => simp [others, Outcome.shift] at run
            | tooDeep => simp [others, Outcome.shift] at run
            | ok more ending =>
                rw [others] at run
                obtain ⟨rfl, rfl⟩ := Outcome.ok.inj run
                have runs : byRuns limit readers next.rest = .ok (more, ending.rest) :=
                  ih.2 ⟨ending, others, rfl⟩
                simp only [runs, Cursor.rest_shift]

/-- No translation changes what a reader finds. -/
theorem translation_related (limit count : Nat) (reader : Reader) :
    (Simulation.translation count).Related (reader.parser limit) (reader.parser limit) := by
  have elementary : (Simulation.translation count).RelatesBlocks limit limit :=
    Simulation.translation_relatesBlocks limit
  cases reader with
  | skips spacing => exact (elementary.skip spacing).map _
  | reads construct => exact elementary.construct Simulation.translation_relatesCommands construct

/-- A reader at a place does what it does at the start of the rest of the text. -/
theorem parser_eq_shift (limit : Nat) (reader : Reader) (cursor : Cursor) :
    reader.parser limit cursor
      = (reader.parser limit (.start cursor.rest)).shift cursor.offset := by
  -- The place is the start of its own rest, moved on by its offset.
  refine Simulation.translation_outcomes (translation_related limit cursor.offset reader ?_)
  change cursor = (Cursor.start cursor.rest).shift cursor.offset
  simp [Cursor.shift, Cursor.start]

/-- Readers that follow one another do what readers on remainders do, with all places moved on. -/
theorem inSequence_eq_shift (limit : Nat) (readers : List Reader) (cursor : Cursor) :
    inSequence limit readers cursor
      = (byRemainder limit readers cursor.rest).shift cursor.offset := by
  induction readers generalizing cursor with
  | nil => simp [inSequence, byRemainder, Parser.pure_apply, Outcome.shift, Cursor.shift]
  | cons reader readers ih =>
      simp only [inSequence, byRemainder, Parser.bind_apply]
      rw [parser_eq_shift]
      cases reader.parser limit (.start cursor.rest) with
      | fail fault => rfl
      | tooDeep => rfl
      | ok reading next =>
          -- The rest is moved on twice: by what this reader took up, and by the offset.
          change (inSequence limit readers (next.shift cursor.offset)).bind _
            = (((byRemainder limit readers next.rest).shift next.offset).bind _).shift cursor.offset
          rw [ih, Cursor.rest_shift, Cursor.offset_shift, ← Outcome.shift_shift]
          cases (byRemainder limit readers next.rest).shift next.offset <;> rfl

/-- **Reading is local.** At an offset of a text every reader gives what it gives at the start of
the rest of the text, the same value or the same complaint, with its place moved on by the offset;
and readers that are fed the remainder of the one before agree with readers that follow one another
in the whole text. -/
theorem parser_and_inSequence_ofOffset (limit : Nat) (text : Text) (offset : Nat) :
    (∀ reader : Reader, reader.parser limit (.ofOffset text offset)
      = (reader.parser limit (.start (text.drop offset))).shift offset) ∧
    (∀ readers : List Reader, inSequence limit readers (.ofOffset text offset)
      = (byRemainder limit readers (text.drop offset)).shift offset) :=
  ⟨fun reader => parser_eq_shift limit reader _, fun readers => inSequence_eq_shift limit readers _⟩

end Reader

end MathGrammar
