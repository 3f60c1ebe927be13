import MathGrammar.Proofs.Command.RoundTrip
import MathGrammar.Proofs.Consumption

/-! # Texts and their extensions

A text that ends with a line break, spacing included, protects what is read in it: a reader inside
the text finds the same when a command that gives a block its structure is put behind it. Readers of
symbols may pass the line break while they look for a bar or a field, but there they find neither in
the text alone nor in its extension. -/

namespace MathGrammar

open Spacing

/-! ### Closed texts -/

/-- A text of characters and pairs up to a line break with nothing but separators behind it. -/
inductive Closed : Text → Prop where
  /-- The line break and the separators behind it. -/
  | lineBreak {run : Text} (tokens : Tokens .separators run []) : Closed ('\\' :: '\\' :: run)
  /-- A character. -/
  | char {c : Char} {text : Text} (ne : c ≠ '\\') (others : Closed text) : Closed (c :: text)
  /-- A backslash and the character behind it. -/
  | pair (c : Char) {text : Text} (others : Closed text) : Closed ('\\' :: c :: text)

/-- A closed text, or nothing: what is left of a closed text at the places where symbols are
read. -/
def Within (text : Text) : Prop := Closed text ∨ text = []

namespace Closed

variable {text more : Text} {spacing : Spacing}

/-- A closed text holds two characters at least, those of its line break. -/
theorem exists_cons_cons (closed : Closed text) : ∃ c d rest, text = c :: d :: rest := by
  cases closed with
  | lineBreak => exact ⟨_, _, _, rfl⟩
  | pair c => exact ⟨_, _, _, rfl⟩
  | char ne others => cases others <;> exact ⟨_, _, _, rfl⟩

/-- A closed text is closed behind a character that begins no command. -/
theorem of_cons {c : Char} (closed : Closed (c :: text)) (ne : c ≠ '\\') : Closed text := by
  cases closed with
  | lineBreak => exact absurd rfl ne
  | char _ others => exact others
  | pair => exact absurd rfl ne

/-- A closed text is closed behind a backslash and the character that goes with it. -/
theorem of_pair {c : Char} (closed : Closed ('\\' :: c :: text)) (ne : c ≠ '\\') :
    Closed text := by
  cases closed with
  | lineBreak => exact absurd rfl ne
  | char notBackslash => exact absurd rfl notBackslash
  | pair _ others => exact others

/-- Units in front keep a text closed. -/
theorem append {taken : Text} (units : Units spacing taken) (closed : Closed text) :
    Closed (taken ++ text) := by
  induction units with
  | nil => exact closed
  | char ne _ ih => exact .char ne ih
  | pair _ _ ih => exact .pair _ ih

/-- Units that stay on the line do not reach past the line break. -/
theorem of_append {taken : Text} (units : Units .inline taken) (closed : Closed (taken ++ text)) :
    Closed text := by
  induction units with
  | nil => exact closed
  | char ne _ ih => exact ih (closed.of_cons ne)
  | pair lineBreak _ ih => exact ih (closed.of_pair fun h => absurd (lineBreak h) nofun)

/-- Characters that stay on the line are found in a closed text without a look behind it. -/
theorem prefix_append_iff {characters : Text} (units : Units .inline characters)
    (closed : Closed text) : characters <+: text ++ more ↔ characters <+: text := by
  induction units generalizing text with
  | nil => simp
  | char ne _ ih =>
      obtain ⟨d, e, rest, rfl⟩ := closed.exists_cons_cons
      rw [List.cons_append, List.cons_prefix_cons, List.cons_prefix_cons]
      refine and_congr_right ?_
      rintro rfl
      exact ih (closed.of_cons ne)
  | pair lineBreak _ ih =>
      obtain ⟨d, e, rest, rfl⟩ := closed.exists_cons_cons
      simp only [List.cons_append, List.cons_prefix_cons]
      refine and_congr_right ?_
      rintro rfl
      refine and_congr_right ?_
      rintro rfl
      exact ih (closed.of_pair fun h => absurd (lineBreak h) nofun)

/-- Whether a sign starts a closed text does not depend on what is added behind. -/
theorem isPrefixOf_append {characters : Text} (units : Units .inline characters)
    (closed : Closed text) (more : Text) :
    characters.isPrefixOf (text ++ more) = characters.isPrefixOf text := by
  rw [Bool.eq_iff_iff, List.isPrefixOf_iff_prefix, List.isPrefixOf_iff_prefix,
    closed.prefix_append_iff units]

/-! ### What scanners find in closed texts -/

/-- The name in front of a closed text ends in it, unless what is added goes on with letters. -/
theorem nameAhead_append (closed : Closed text) (head : more.HeadNot Char.isAlphanum) :
    nameAhead (text ++ more) = nameAhead text := by
  obtain ⟨c, d, rest, rfl⟩ := closed.exists_cons_cons
  by_cases backslash : c = '\\'
  · subst backslash
    simp only [nameAhead, List.cons_append]
    rw [← List.cons_append, takeWhile_append_left head]
  · simp [nameAhead, backslash]

/-- The parameters in front of a closed text end in it: its line break is no part of any. -/
theorem paramsAhead_append (closed : Closed text) (head : more.head? = some '\\') :
    paramsAhead (text ++ more) = paramsAhead text := by
  obtain ⟨c, d, rest, rfl⟩ := closed.exists_cons_cons
  by_cases bracket : c = '['
  · subst bracket
    -- What follows starts with a backslash, which neither goes on with the list nor closes it.
    have inside : more.HeadNot fun c => c.isAlphanum || c == ',' := by
      intro c mem
      rw [head] at mem
      cases mem
      decide
    have bracket_eq : ∀ behind : Text,
        [']'].isPrefixOf (behind ++ more) = [']'].isPrefixOf behind := by
      intro behind
      obtain ⟨tail, rfl⟩ := List.head?_eq_some_iff.1 head
      cases behind <;> simp [List.isPrefixOf]
    obtain ⟨behind, text_eq⟩ :=
      List.takeWhile_prefix (l := d :: rest) fun c => c.isAlphanum || c == ','
    simp only [paramsAhead, List.cons_append]
    rw [← List.cons_append, takeWhile_append_left inside]
    generalize (d :: rest).takeWhile (fun c => c.isAlphanum || c == ',') = taken at *
    rw [← text_eq, List.append_assoc, List.drop_left, List.drop_left, bracket_eq]
  · simp [paramsAhead, bracket]

/-- The mark in front of a closed text does not depend on what is added behind. -/
theorem repetitionAhead_append (closed : Closed text) (more : Text) :
    repetitionAhead (text ++ more) = repetitionAhead text := by
  have mark : ∀ kind : Repetition,
      kind.mark.isPrefixOf (text ++ more) = kind.mark.isPrefixOf text :=
    fun kind => closed.isPrefixOf_append (units_mark kind) more
  simp only [repetitionAhead, mark]

/-- No literal reaches to the line break. -/
theorem scanLiteral?_append (closed : Closed text) (depth : Nat) (more : Text) :
    scanLiteral? depth (text ++ more) = scanLiteral? depth text := by
  have stops : ∀ depth rest, scanLiteral? depth ('\\' :: rest) = none := by
    intro depth rest
    have outside : isLiteralChar '\\' = false := by decide
    rw [scanLiteral?.eq_def]
    simp [outside]
  induction closed generalizing depth with
  | lineBreak => exact (stops _ _).trans (stops _ _).symm
  | pair => exact (stops _ _).trans (stops _ _).symm
  | char ne _ ih =>
      rw [List.cons_append, scanLiteral?.eq_def, scanLiteral?.eq_def]
      simp only [ih]

/-- A literal in front of a closed text is stopped by a backslash in it, if by nothing else. -/
theorem literalArgumentAhead_append (closed : Closed text) (more : Text) :
    literalArgumentAhead (text ++ more) = literalArgumentAhead text := by
  simp only [literalArgumentAhead, closed.scanLiteral?_append]

/-- A sign is found in front of a closed text whatever is added behind. -/
theorem charactersAhead_append {characters : Text} (units : Units .inline characters)
    (closed : Closed text) (more : Text) :
    charactersAhead characters (text ++ more) = charactersAhead characters text := by
  simp only [charactersAhead, closed.isPrefixOf_append units]

/-! ### Spacing in closed texts -/

/-- Whether a closed text starts with a letter does not depend on what is added behind. -/
theorem startsWithLetter_append (closed : Closed text) (more : Text) :
    startsWithLetter (text ++ more) = startsWithLetter text := by
  obtain ⟨c, d, rest, rfl⟩ := closed.exists_cons_cons
  rfl

/-- No spacing token reaches over the end of a closed text. -/
theorem exists_token_of_append {token rest : Text} (closed : Closed text)
    (shape : Token spacing token rest) (text_eq : text ++ more = token ++ rest) :
    ∃ behind, text = token ++ behind ∧ Token spacing token behind := by
  obtain ⟨c, d, others, rfl⟩ := closed.exists_cons_cons
  cases shape with
  | char ne spaces =>
      obtain ⟨rfl, -⟩ := List.cons.inj text_eq
      exact ⟨d :: others, rfl, .char ne spaces _⟩
  | pair short =>
      obtain ⟨rfl, tail_eq⟩ := List.cons.inj text_eq
      obtain ⟨rfl, -⟩ := List.cons.inj tail_eq
      exact ⟨others, rfl, .pair short _⟩
  | @word word _ mem noLetter =>
      -- The word stays on the line, and so do the text behind it and a letter that might follow.
      have units : Units .inline ('\\' :: word) := Units.of_token (Token.word mem noLetter)
      obtain ⟨behind, behind_eq⟩ :=
        (closed.prefix_append_iff units).1 ⟨rest, text_eq.symm⟩
      rw [← behind_eq] at closed text_eq ⊢
      rw [List.append_assoc] at text_eq
      rw [← List.append_cancel_left text_eq,
        (closed.of_append units).startsWithLetter_append] at noLetter
      exact ⟨behind, rfl, .word mem noLetter⟩

/-- Where no spacing starts a closed text, none does in front of what is added. -/
theorem tokenLength_append (closed : Closed text) (none : spacing.tokenLength text = 0)
    (more : Text) : spacing.tokenLength (text ++ more) = 0 := by
  by_cases found : spacing.tokenLength (text ++ more) = 0
  · exact found
  · -- A token in the extension would be one in the text.
    obtain ⟨token, rest, shape, text_eq⟩ := exists_token found
    obtain ⟨behind, rfl, shape'⟩ := closed.exists_token_of_append shape text_eq
    have positive := shape'.length_pos
    have length_eq := shape'.tokenLength_append
    omega

/-- A spacing token leaves a text closed, unless it is the line break at the end. -/
theorem of_token {token : Text} (closed : Closed (token ++ text))
    (shape : Token spacing token text) :
    Closed text ∨ spacing = .separators ∧ Tokens .separators text [] := by
  cases shape with
  | char ne => exact .inl (closed.of_cons ne)
  | word mem noLetter =>
      have units : Units .inline _ := Units.of_token (Token.word mem noLetter)
      exact .inl (closed.of_append units)
  | @pair c short =>
      by_cases backslash : c = '\\'
      · subst backslash
        have separators : spacing = .separators := by
          rcases short with short | ⟨-, separators⟩
          · exact absurd short (by decide)
          · exact separators
        cases closed with
        | lineBreak tokens => exact .inr ⟨separators, tokens⟩
        | char ne => exact absurd rfl ne
        | pair _ others => exact .inl others
      · exact .inl (closed.of_pair backslash)

/-- A run of spacing in a closed text is the same run in front of an extension. It ends in the text,
or it is all of it that is left. -/
theorem run_append {run rest : Text} (closed : Closed (run ++ rest))
    (tokens : Tokens spacing run rest)
    (last : spacing.tokenLength rest = 0) (noToken : spacing.tokenLength more = 0)
    (noLetter : startsWithLetter more = false) :
    Within rest ∧ Tokens spacing run (rest ++ more) ∧
      spacing.tokenLength (rest ++ more) = 0 := by
  induction tokens with
  | nil rest => exact ⟨.inl closed, .nil _, tokenLength_append closed last more⟩
  | @cons token run rest first others ih =>
      rw [List.append_assoc] at closed
      rcases closed.of_token first with inside | ⟨rfl, tail⟩
      · obtain ⟨ends, tokens, none⟩ := ih inside last
        refine ⟨ends, .cons ?_ tokens, none⟩
        rw [← List.append_assoc]
        cases first with
        | char ne spaces => exact .char ne spaces _
        | pair short => exact .pair short _
        | word mem follows =>
            exact .word mem ((inside.startsWithLetter_append more).trans follows)
      · -- All of the rest is separators, and the run takes up the longest run of them.
        have whole := tail.runLength_append rfl
        have longest := others.runLength_append last
        rw [List.append_nil, longest, List.length_append] at whole
        obtain rfl : rest = [] := List.eq_nil_of_length_eq_zero (by omega)
        exact ⟨.inr rfl, (Tokens.cons first others).of_nil noLetter, noToken⟩

/-- The run of spacing in front of a closed text ends within it, at the latest where the text
does. -/
theorem runLength_append (closed : Closed text) (noToken : spacing.tokenLength more = 0)
    (noLetter : startsWithLetter more = false) :
    ∃ run rest, text = run ++ rest ∧ Within rest ∧
      spacing.runLength text = run.length ∧ spacing.runLength (text ++ more) = run.length := by
  obtain ⟨run, rest, rfl, tokens, last⟩ := exists_run spacing text
  obtain ⟨ends, tokens', last'⟩ := closed.run_append tokens last noToken noLetter
  refine ⟨run, rest, rfl, ends, tokens.runLength_append last, ?_⟩
  rw [List.append_assoc, tokens'.runLength_append last']

end Closed

/-! ### What follows a text -/

/-- The text goes on with a command that gives a block its structure, wherever it stands. -/
def GoesOn (limit : Nat) (text : Text) : Prop :=
  ∀ offset, ∃ command next, Parser.command limit ⟨offset, text⟩ = .ok command next ∧
    command.name ∈ structuralNames

namespace GoesOn

variable {limit : Nat} {more : Text}

/-- What goes on like a block starts with a backslash and the name of a structural command. -/
theorem exists_cons (goesOn : GoesOn limit more) :
    ∃ rest, more = '\\' :: rest ∧ rest.takeWhile Char.isAlphanum ∈ structuralNames := by
  obtain ⟨command, next, read, structural⟩ := goesOn 0
  obtain ⟨_, _, _, _, _, -, named, -⟩ := Parser.exists_of_command_eq_ok read
  obtain ⟨rest, text_eq, name_eq, -⟩ := Parser.exists_of_commandName_eq_ok named
  exact ⟨rest, text_eq, name_eq ▸ structural⟩

/-- What goes on like a block starts with a backslash. -/
theorem head?_eq (goesOn : GoesOn limit more) : more.head? = some '\\' := by
  obtain ⟨rest, rfl, -⟩ := goesOn.exists_cons
  rfl

/-- No structural command is spacing. -/
theorem tokenLength_eq_zero (goesOn : GoesOn limit more) (spacing : Spacing) :
    spacing.tokenLength more = 0 := by
  obtain ⟨rest, rfl, structural⟩ := goesOn.exists_cons
  rw [← List.takeWhile_append_dropWhile (p := Char.isAlphanum) (l := rest)]
  simp only [structuralNames, List.mem_cons, List.not_mem_nil, or_false] at structural
  rcases structural with name_eq | name_eq
  · rw [name_eq]
    rfl
  · rw [name_eq]
    rfl

/-- What goes on like a block starts with no letter, and so ends the name in front of it. -/
theorem startsWithLetter_eq_false (goesOn : GoesOn limit more) :
    startsWithLetter more = false := by
  obtain ⟨rest, rfl, -⟩ := goesOn.exists_cons
  rfl

/-- What goes on like a block starts with no character of a kind without the backslash. -/
theorem headNot (goesOn : GoesOn limit more) {chars : Char → Bool}
    (backslash : chars '\\' = false) :
    more.HeadNot chars := by
  intro c mem
  rw [goesOn.head?_eq] at mem
  cases mem
  exact backslash

/-- No sign is found in front of a structural command. -/
theorem not_prefix (goesOn : GoesOn limit more) {sign : Text}
    (mem : sign ∈ [':', ':', '='] :: Simulation.signs) : ¬sign <+: more := by
  obtain ⟨rest, rfl, structural⟩ := goesOn.exists_cons
  have noName : ([] : Text) ∉ structuralNames := by decide
  intro found
  cases sign with
  | nil => exact absurd mem (by decide)
  | cons c sign =>
      obtain ⟨rfl, behind⟩ := List.cons_prefix_cons.1 found
      -- The sign would be a brace, but a letter stands behind the backslash of the command.
      rcases Simulation.brace_of_mem_signs mem List.mem_cons_self with eq | eq
      · obtain ⟨-, rfl⟩ := List.cons.inj eq
        obtain ⟨tail, rfl⟩ := behind
        exact noName structural
      · obtain ⟨-, rfl⟩ := List.cons.inj eq
        obtain ⟨tail, rfl⟩ := behind
        exact noName structural

/-- A command that gives a block its structure is refused where another command is wanted. -/
theorem judge_refuses {α : Type} {verdict : Command → Except Complaint α}
    (goesOn : GoesOn limit more)
    (rejected : ∀ command : Command, command.name ∈ structuralNames →
      ∃ complaint, verdict command = .error complaint ∧ complaint.kind.recoverable = true) :
    ((Parser.command limit).judge verdict).Refuses more := by
  intro offset
  obtain ⟨command, next, read, structural⟩ := goesOn offset
  obtain ⟨complaint, verdict_eq, recoverable⟩ := rejected command structural
  refine ⟨complaint.located offset, ?_, recoverable⟩
  simp only [Parser.judge, read, Outcome.bind_ok, verdict_eq]

/-- A structural command is no terminal. -/
theorem refuses_terminal (goesOn : GoesOn limit more) : (Parser.terminal limit).Refuses more := by
  refine goesOn.judge_refuses fun command structural => ⟨⟨.unclassifiable, .terminal⟩, ?_, rfl⟩
  simp only [structuralNames, List.mem_cons, List.not_mem_nil, or_false] at structural
  have noName : command.terminalName = .ok none := by
    rcases structural with name_eq | name_eq
    · rw [Command.terminalName, name_eq]
      rfl
    · rw [Command.terminalName, name_eq]
      rfl
  rw [Command.toTerminal, noName]
  rfl

/-- A structural command is no nonterminal. -/
theorem refuses_nonterminal (goesOn : GoesOn limit more) :
    (Parser.nonterminal limit).Refuses more := by
  refine goesOn.judge_refuses fun command structural => ⟨⟨.unclassifiable, .nonterminal⟩, ?_, rfl⟩
  rw [Command.toNonterminal, if_pos (by simpa using structural)]

/-- A structural command is none of another name. -/
theorem refuses_commandNamed (goesOn : GoesOn limit more) {kind : FaultKind} {name : Text}
    (other : name ∉ structuralNames) (recoverable : kind.recoverable = true) :
    (Parser.commandNamed limit kind name).Refuses more := by
  refine goesOn.judge_refuses fun command structural =>
    ⟨⟨kind, .commandNamed name⟩, ?_, recoverable⟩
  rw [if_neg]
  rintro rfl
  exact other structural

end GoesOn

/-! ### Runs in a text and in its extension -/

namespace Simulation

/-- A text from a spot on, and the same text with `count` characters more in front of the spot and
with more text behind it. Faults need only be recovered alike. -/
def extension (count : Nat) (more : Text) (Spot : Text → Prop) : Simulation where
  Places first second := Spot first.rest ∧ second = ⟨first.offset + count, first.rest ++ more⟩
  Faults first second := first.recoverable = second.recoverable
  Lenient := False
  surplus := more.length
  located _ _ := rfl
  recoverable_eq same := same
  length_eq := by rintro first _ ⟨-, rfl⟩; exact List.length_append

variable {α : Type} {count : Nat} {more : Text} {Spot : Text → Prop}

/-- Readers that are related read alike in front of an extension, and end at a spot of the same
kind. -/
theorem extension_ok {p : Parser α} {cursor next : Cursor} {value : α}
    (related : (extension count more Spot).Related p p) (spot : Spot cursor.rest)
    (run : p cursor = .ok value next) :
    Spot next.rest ∧ p ⟨cursor.offset + count, cursor.rest ++ more⟩
      = .ok value ⟨next.offset + count, next.rest ++ more⟩ := by
  obtain ⟨next', read, spotNext, rfl⟩ := related.exists_of_ok (c := cursor) ⟨spot, rfl⟩ run
  exact ⟨spotNext, read⟩

/-- A scanner that finds the same in front of an extension is related to itself. -/
theorem extension_related_scan {look : Text → Except Complaint (α × Nat)}
    (same : ∀ text, Spot text → look (text ++ more) = look text)
    (stays : ∀ text value length, Spot text → look text = .ok (value, length) →
      ∃ taken rest, text = taken ++ rest ∧ taken.length = length ∧ Spot rest) :
    (extension count more Spot).Related (Parser.scan look) (Parser.scan look) := by
  rintro ⟨offset, text⟩ _ ⟨spot, rfl⟩
  simp only [Parser.scan, same text spot]
  cases found : look text with
  | error complaint => exact .fail rfl
  | ok result =>
      obtain ⟨taken, rest, rfl, length_eq, spot'⟩ := stays text result.1 result.2 spot found
      refine .ok result.1 ⟨?_, ?_⟩
      · rwa [Cursor.rest_advance, ← length_eq, List.drop_left]
      · simp only [Cursor.advance, ← length_eq, List.append_assoc, List.drop_left, Cursor.mk.injEq,
          and_true]
        omega

/-- Readers of commands stay inside a closed text. -/
theorem closed_related_scan {look : Text → Except Complaint (α × Nat)}
    (same : ∀ text, Closed text → look (text ++ more) = look text)
    (takes : TakesUnits .inline look) :
    (extension count more Closed).Related (Parser.scan look) (Parser.scan look) := by
  refine extension_related_scan same fun text value length closed found => ?_
  obtain ⟨taken, rest, rfl, length_eq, units⟩ := takes found
  exact ⟨taken, rest, rfl, length_eq, closed.of_append units⟩

/-- Every part of a command is read alike in front of what goes on like a block. -/
theorem closed_relatesCommands {limit : Nat} (goesOn : GoesOn limit more) :
    (extension count more Closed).RelatesCommands where
  commandName := Parser.commandName_eq_scan ▸ closed_related_scan
    (fun _ closed => closed.nameAhead_append (goesOn.headNot (by decide))) takesUnits_nameAhead
  params := Parser.params_eq_scan ▸ closed_related_scan
    (fun _ closed => closed.paramsAhead_append goesOn.head?_eq) takesUnits_paramsAhead
  repetition := Parser.repetition_eq_scan ▸ closed_related_scan
    (fun _ closed => closed.repetitionAhead_append more) takesUnits_repetitionAhead
  literalArgument := Parser.literalArgument_eq_scan ▸ closed_related_scan
    (fun _ closed => closed.literalArgumentAhead_append more) takesUnits_literalArgumentAhead
  openBrace := Parser.literal_eq_scan _ ▸ closed_related_scan
    (fun _ closed => closed.charactersAhead_append (.of_notMem (by decide)) more)
    (takesUnits_charactersAhead (.of_notMem (by decide)))
  closeBrace := Parser.literal_eq_scan _ ▸ closed_related_scan
    (fun _ closed => closed.charactersAhead_append (.of_notMem (by decide)) more)
    (takesUnits_charactersAhead (.of_notMem (by decide)))
  inline := by
    refine Parser.skip_eq_scan _ ▸ closed_related_scan (fun text closed => ?_) takesUnits_skip
    obtain ⟨run, rest, -, -, length_eq, length_eq'⟩ :=
      closed.runLength_append (goesOn.tokenLength_eq_zero .inline) goesOn.startsWithLetter_eq_false
    rw [length_eq, length_eq']

/-- A reader that finds nothing at the end of a text and nothing behind it may also be tried
there. -/
theorem within_related {p : Parser α} (inside : (extension count more Closed).Related p p)
    (empty : p.Refuses []) (behind : p.Refuses more) :
    (extension count more Within).Related p p := by
  rintro ⟨offset, text⟩ _ ⟨spot, rfl⟩
  rcases spot with closed | rfl
  · have outcomes := inside (c := ⟨offset, text⟩) ⟨closed, rfl⟩
    generalize p ⟨offset, text⟩ = first at outcomes ⊢
    generalize p ⟨offset + count, text ++ more⟩ = second at outcomes ⊢
    cases outcomes with
    | ok value places => exact .ok value ⟨.inl places.1, places.2⟩
    | fail faults => exact .fail faults
    | tooDeep => exact .tooDeep
    | lenient lenient => exact lenient.elim
  · obtain ⟨fault, failed, recoverable⟩ := empty offset
    obtain ⟨fault', failed', recoverable'⟩ := behind (offset + count)
    rw [List.nil_append, failed, failed']
    exact .fail (recoverable.trans recoverable'.symm)

/-- A sign is read alike in front of what goes on like a block, which starts with none. -/
theorem within_related_sign {limit : Nat} (goesOn : GoesOn limit more) {sign : Text}
    (mem : sign ∈ [':', ':', '='] :: signs) :
    (extension count more Within).Related (Parser.literal sign) (Parser.literal sign) := by
  have units : Units .inline sign := units_of_mem_signs mem
  have nonempty : sign ≠ [] := by
    rintro rfl
    exact absurd mem (by decide)
  refine within_related ?_ (Parser.refuses_literal ?_) (Parser.refuses_literal ?_)
  · exact Parser.literal_eq_scan _ ▸ closed_related_scan
      (fun _ closed => closed.charactersAhead_append units more) (takesUnits_charactersAhead units)
  · rwa [List.prefix_nil]
  · exact goesOn.not_prefix mem

/-- Spacing is skipped alike in front of what goes on like a block, which starts with none. -/
theorem within_related_skip {limit : Nat} (goesOn : GoesOn limit more) (spacing : Spacing) :
    (extension count more Within).Related (Parser.skip spacing) (Parser.skip spacing) := by
  rw [Parser.skip_eq_scan]
  refine extension_related_scan (fun text spot => ?_) fun text value length spot found => ?_
  · rcases spot with closed | rfl
    · obtain ⟨run, rest, -, -, length_eq, length_eq'⟩ :=
        closed.runLength_append
          (goesOn.tokenLength_eq_zero spacing) goesOn.startsWithLetter_eq_false
      rw [length_eq, length_eq']
    · rw [List.nil_append, runLength_eq_zero (goesOn.tokenLength_eq_zero spacing),
        runLength_eq_zero rfl]
  · obtain ⟨-, rfl⟩ := Prod.mk.inj (Except.ok.inj found)
    rcases spot with closed | rfl
    · obtain ⟨run, rest, text_eq, ends, length_eq, -⟩ :=
        closed.runLength_append
          (goesOn.tokenLength_eq_zero spacing) goesOn.startsWithLetter_eq_false
      exact ⟨run, rest, text_eq, length_eq.symm, ends⟩
    · exact ⟨[], [], rfl, (runLength_eq_zero rfl).symm, .inr rfl⟩

/-- Symbols are read alike in front of what goes on like a block. -/
theorem within_relatesSymbols {limit : Nat} (goesOn : GoesOn limit more) :
    (extension count more Within).RelatesSymbols limit limit := by
  have command : (extension count more Closed).Related (Parser.command limit)
      (Parser.command limit) := (closed_relatesCommands goesOn).command (.inl rfl)
  -- At the end of the text no command is read, and behind it only a structural one.
  have empty : (Parser.command limit).Refuses [] :=
    Parser.refuses_command_of_head limit nofun
  exact {
    terminal := within_related (command.judge _) (empty.judge _) goesOn.refuses_terminal
    nonterminal := within_related (command.judge _) (empty.judge _) goesOn.refuses_nonterminal
    named := fun name mem => within_related (command.commandNamed _ _) (empty.judge _)
      (goesOn.refuses_commandNamed (by
        simp only [List.mem_cons, List.not_mem_nil, or_false] at mem
        rcases mem with rfl | rfl <;> decide) rfl)
    sign := fun sign mem => within_related_sign goesOn (List.mem_cons_of_mem _ mem)
    skip := within_related_skip goesOn }

end Simulation

end MathGrammar
