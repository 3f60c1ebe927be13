import MathGrammar.WholeText
import MathGrammar.Proofs.Command.Literal
import MathGrammar.Proofs.Command.WellFormed
import MathGrammar.Proofs.Reading
import MathGrammar.Proofs.Text

/-! # Commands are read back

The written form of a well-formed command, with spacing behind it, is read as that command in front
of any text that does not go on with one of its parts. Each part is written so that it starts with a
character that no part before it can take up: a bracket for the parameters, a brace for an argument,
a caret for the repetition. -/

namespace MathGrammar

/-! ### What a command goes on with -/

/-- Whether a command goes on with the character: a letter or digit of its name, or the first
character of its parameters, of an argument or of its repetition. -/
def continuesCommand (c : Char) : Bool := c.isAlphanum || c == '[' || c == '\x7b' || c == '^'

/-- Spacing starts with nothing that a command goes on with. -/
theorem headNot_of_runLength {spaces after : Text}
    (run : Spacing.inline.runLength (spaces ++ after) = spaces.length)
    (stops : spaces ≠ [] ∨ after.HeadNot continuesCommand) :
    (spaces ++ after).HeadNot continuesCommand := by
  cases spaces with
  | nil => exact stops.resolve_left fun h => h rfl
  | cons c spaces =>
      intro d mem
      obtain rfl : c = d := Option.some.inj mem
      -- Otherwise nothing would be skipped, though there is a first space.
      rw [Bool.eq_false_iff]
      intro continues
      rw [List.cons_append, Spacing.runLength_eq_zero
        (Spacing.tokenLength_eq_zero_of_head continues _)] at run
      simp at run

/-! ### Parameters -/

/-- A name has a character at least. -/
theorem ne_nil_of_isName {name : Text} (named : isName name = true) : name ≠ [] := by
  rintro rfl
  simp [isName] at named

namespace Parser

/-- A name behind a backslash is read up to a character that is none of a name. -/
theorem reads_commandName {name after : Text} (named : isName name = true)
    (head : after.HeadNot Char.isAlphanum) : commandName.Reads ('\\' :: name) name after := by
  intro offset
  have taken := takeWhile_append_of_headNot (all_of_isName named) head
  simp only [commandName, List.cons_append, taken]
  rw [if_neg (by simpa using ne_nil_of_isName named)]
  simp [Cursor.advance]

/-- A list of parameters is written in brackets, which are left out when it is empty. -/
theorem reads_params {names : List Text} {after : Text} (named : names.all isName = true)
    (head : after.HeadNot (· == '[')) :
    params.Reads (Command.renderParams names) names after := by
  intro offset
  cases names with
  | nil =>
      rw [Command.renderParams, List.nil_append]
      unfold params
      split
      · rename_i rest text_eq
        have outside := head '[' (by simp_all)
        simp at outside
      · rfl
  | cons first others =>
      have alphanumeric : ∀ name ∈ first :: others, ∀ c ∈ name, c.isAlphanum = true :=
        fun name mem => List.all_eq_true.1 (all_of_isName (List.all_eq_true.1 named name mem))
      -- No name holds a comma, so splitting at the commas undoes putting them in.
      have split_eq :
        Text.splitOn ',' (List.intercalate [','] (first :: others)) = first :: others := by
        rw [Text.splitOn_eq]
        refine List.splitOn_intercalate _ (fun name mem comma => ?_) (List.cons_ne_nil _ _)
        exact absurd (alphanumeric name mem ',' comma) (by decide)
      have all_inside : (List.intercalate [','] (first :: others)).all
          (fun c => c.isAlphanum || c == ',') = true := by
        refine List.all_eq_true.2 fun c mem => ?_
        rcases mem_intercalate mem with comma | ⟨name, nameMem, inside⟩
        · rw [List.mem_singleton.1 comma]
          decide
        · rw [alphanumeric name nameMem c inside, Bool.true_or]
      have nonempty : (first :: others).all (fun name => !name.isEmpty) = true := by
        refine List.all_eq_true.2 fun name mem => ?_
        have isName := List.all_eq_true.1 named name mem
        rw [MathGrammar.isName, Bool.and_eq_true] at isName
        exact isName.1
      rw [Command.renderParams.eq_2 _ (List.cons_ne_nil _ _)]
      generalize List.intercalate [','] (first :: others) = inside at split_eq all_inside
      -- The bracket is the first character that does not belong between the brackets.
      have taken : (inside ++ ']' :: after).takeWhile (fun c => c.isAlphanum || c == ',')
        = inside :=
        takeWhile_append_of_headNot all_inside (by rintro c ⟨⟩; decide)
      simp only [params, List.cons_append, List.append_assoc, List.nil_append, taken, split_eq,
        nonempty, Bool.true_and, List.drop_left]
      simp [Cursor.advance]

/-- A mark of repetition is read back, and none is found where there is no caret. -/
theorem reads_repetition {repetition : Option Repetition} {after : Text}
    (head : repetition = none → after.HeadNot (· == '^')) :
    Parser.repetition.Reads (Repetition.suffix repetition) repetition after := by
  intro offset
  cases repetition with
  | some kind =>
      -- No mark starts with another one, so the first that fits is the one that was written.
      cases kind <;> simp [Parser.repetition, Repetition.all, Repetition.mark, Cursor.advance]
  | none =>
      have caret := head rfl
      cases after with
      | nil => rfl
      | cons c after =>
          have ne : c ≠ '^' := by simpa using caret c rfl
          simp [Parser.repetition, Repetition.all, Repetition.mark, Ne.symm ne]

/-! ### Arguments -/

/-- A command starts with a backslash and a name. -/
theorem refuses_command (limit : Nat) {text : Text}
    (noName : ∀ rest : Text, text = '\\' :: rest → rest.HeadNot Char.isAlphanum) :
    (command limit).Refuses text := by
  have refused : commandName.Refuses text := by
    intro offset
    refine ⟨⟨⟨.unexpectedToken, .command⟩, offset⟩, ?_, rfl⟩
    unfold commandName
    split
    · rename_i rest text_eq
      have empty : rest.takeWhile Char.isAlphanum = [] :=
        takeWhile_append_of_headNot (List.all_nil) (noName rest text_eq)
      simp only [empty, List.isEmpty_nil, if_true]
    · rfl
  cases limit with
  | zero => exact refused.bind _
  | succ limit => exact refused.bind _

/-- A text without a backslash in front is no command, whatever the limit. -/
theorem refuses_command_of_head (limit : Nat) {text : Text} (head : text.HeadNot (· == '\\')) :
    (command limit).Refuses text := by
  refine refuses_command limit fun rest text_eq => ?_
  subst text_eq
  exact absurd (head '\\' rfl) (by decide)

/-- A literal argument is no command, since no literal holds a backslash; so no limit matters to it,
however deeply the braces in it are nested. -/
theorem reads_argument_of_balanced (limit : Nat) {text content : Text}
    (balanced : BalancedLiteral text content) (after : Text) :
    (argument (command limit)).Reads ('\x7b' :: (text ++ ['\x7d'])) (.literal content) after := by
  refine (reads_literal ['\x7b'] _).bind (Refuses.firstOf_reads ?_ (Reads.firstOf ?_))
  · show (nestedArgument (command limit)).Refuses (text ++ ['\x7d'] ++ after)
    rw [List.append_assoc]
    exact Refuses.bind _ (refuses_command_of_head limit (balanced.headNot_backslash after))
  · intro offset
    simp [literalArgument, balanced.scanLiteral?_closed, Cursor.advance]

/-- A literal argument is read from its written form. -/
theorem reads_argument_literal (limit : Nat) {text : Text} (literal : text.all isLiteralChar = true)
    (after : Text) :
    (argument (command limit)).Reads (Argument.literal text).render (.literal text) after :=
  reads_argument_of_balanced limit (.of_plain literal) after

/-- A command in an argument is read from its written form when the command is. -/
theorem reads_argument_nested {limit : Nat} {inner : Command} {after : Text}
    (reads : (command limit).Reads inner.render inner ('\x7d' :: after)) :
    (argument (command limit)).Reads (Argument.nested inner).render (.nested inner) after :=
  (reads_literal ['\x7b'] _).bind
    (Reads.firstOf (reads.bind ((reads_literal ['\x7d'] after).bind_last (.pure _ _))))

/-- Arguments are read one after another up to where no brace opens the next one. -/
theorem reads_arguments {limit : Nat} {args : List Argument} {after : Text}
    (head : after.HeadNot (· == '\x7b'))
    (each : ∀ arg ∈ args, ∀ after, (argument (command limit)).Reads arg.render arg after) :
    (many (argument (command limit))).Reads (Argument.renderAll args) args after := by
  induction args with
  | nil =>
      refine Refuses.many (Refuses.bind _ (refuses_literal fun opens => ?_))
      obtain ⟨rest, rfl⟩ := opens
      exact absurd (head '\x7b' rfl) (by decide)
  | cons arg args ih =>
      have ne : arg.render ≠ [] := by cases arg <;> simp [Argument.render]
      exact (each arg List.mem_cons_self _).many ne
        (ih fun other mem => each other (List.mem_cons_of_mem _ mem))

/-! ### Commands -/

/-- Written parameters start with a bracket, and otherwise with what follows them. -/
theorem headNot_renderParams (names : List Text) {chars : Char → Bool} {after : Text}
    (bracket : chars '[' = false) (head : after.HeadNot chars) :
    (Command.renderParams names ++ after).HeadNot chars := by
  refine Text.HeadNot.append ?_ head
  cases names with
  | nil => exact nofun
  | cons first others =>
      rintro c ⟨⟩
      exact bracket

/-- Written arguments start with a brace, and otherwise with what follows them. -/
theorem headNot_renderAll (args : List Argument) {chars : Char → Bool} {after : Text}
    (brace : chars '\x7b' = false) (head : after.HeadNot chars) :
    (Argument.renderAll args ++ after).HeadNot chars := by
  refine Text.HeadNot.append ?_ head
  cases args with
  | nil => exact nofun
  | cons arg args =>
      intro c mem
      have opening : c = '\x7b' := by
        cases arg <;> simpa [Argument.renderAll, Argument.render, eq_comm] using mem
      rw [opening, brace]

/-- A written mark starts with a caret, and otherwise with what follows it. -/
theorem headNot_suffix (repetition : Option Repetition) {chars : Char → Bool} {after : Text}
    (caret : chars '^' = false) (head : after.HeadNot chars) :
    (Repetition.suffix repetition ++ after).HeadNot chars := by
  refine Text.HeadNot.append ?_ head
  rintro c mem
  have caret_eq : c = '^' := by
    cases repetition with
    | none => simp at mem
    | some kind => cases kind <;> simpa [Repetition.mark, eq_comm] using mem
  rw [caret_eq, caret]

/-- A well-formed command and the spacing behind it are read back in front of any text that the
command does not go on with. -/
theorem reads_command {limit : Nat} {c : Command} {spaces after : Text}
    (formed : c.wellFormed = true) (fits : c.depth ≤ limit)
    (run : Spacing.inline.runLength (spaces ++ after) = spaces.length)
    (stops : (spaces ++ after).HeadNot continuesCommand) :
    (command limit).Reads (c.render ++ spaces) c after := by
  -- On the limit: the commands in the arguments are read under the limit before it.
  induction limit generalizing c spaces after with
  | zero =>
      cases c
      exact absurd fits (Nat.not_succ_le_zero _)
  | succ limit ih =>
      obtain ⟨name, params, args, repetition⟩ := c
      rw [Command.wellFormed, Bool.and_eq_true, Bool.and_eq_true,
        Argument.allWellFormed_iff] at formed
      obtain ⟨⟨named, listed⟩, argsFormed⟩ := formed
      rw [Command.depth, Nat.add_le_add_iff_right, Argument.depthAll_le_iff] at fits
      have each : ∀ arg ∈ args, ∀ after,
          (argument (command limit)).Reads arg.render arg after := by
        intro arg mem after
        cases arg with
        | literal text => exact reads_argument_literal limit (argsFormed _ mem) after
        | nested inner =>
            refine reads_argument_nested ?_
            have reads : (command limit).Reads (inner.render ++ []) inner ('\x7d' :: after) :=
              ih (argsFormed _ mem) (fits _ mem) (Spacing.runLength_eq_zero rfl)
                (by rintro c ⟨⟩; decide)
            rwa [List.append_nil] at reads
      -- Behind each part stands what a later part starts with, or what follows the command.
      have headSuffix : (Repetition.suffix repetition ++ (spaces ++ after)).HeadNot
          fun c => c.isAlphanum || c == '[' || c == '\x7b' :=
        headNot_suffix _ (by decide) (stops.mono fun c among => by simp_all [continuesCommand])
      have layout : (⟨name, params, args, repetition⟩ : Command).render ++ spaces
          = ('\\' :: name) ++ (Command.renderParams params ++ (Argument.renderAll args
            ++ (Repetition.suffix repetition ++ spaces))) := by
        simp [Command.render]
      rw [layout]
      refine (reads_commandName named ?_).bind ((reads_params listed ?_).bind
        ((reads_arguments ?_ each).bind ((reads_repetition fun _ => ?_).bind
          ((reads_skip run).bind_last (.pure _ _)))))
      · simp only [List.append_assoc]
        exact headNot_renderParams _ (by decide) (headNot_renderAll _ (by decide)
          (headSuffix.mono fun c among => by simp [among]))
      · simp only [List.append_assoc]
        exact headNot_renderAll _ (by decide) (headSuffix.mono fun c among => by simp_all)
      · simp only [List.append_assoc]
        exact headSuffix.mono fun c among => by simp_all
      · exact stops.mono fun c among => by simp_all [continuesCommand]

/-- A command is read as one of its own name. -/
theorem reads_commandNamed {limit : Nat} {kind : FaultKind} {c : Command} {text after : Text}
    (reads : (command limit).Reads text c after) :
    (commandNamed limit kind c.name).Reads text c after :=
  reads.judge (if_pos rfl)

/-- **Reading commands and writing them are inverse.** The commands that can be read are the
well-formed ones that fit the limit on nesting, and the written form of each, with spacing behind
it, is read back as that command in front of any text that does not go on with a part of it. -/
theorem command_image_and_roundTrip (limit : Nat) (c : Command) :
    ((∃ cursor next, command limit cursor = .ok c next) ↔
      c.wellFormed = true ∧ c.depth ≤ limit) ∧
    (c.wellFormed = true → c.depth ≤ limit → ∀ spaces after : Text,
      Spacing.inline.runLength (spaces ++ after) = spaces.length →
      (spaces ≠ [] ∨ after.HeadNot continuesCommand) →
      command limit (.start (c.render ++ spaces ++ after))
        = .ok c ⟨(c.render ++ spaces).length, after⟩) := by
  have readBack : ∀ spaces after : Text, c.wellFormed = true → c.depth ≤ limit →
      Spacing.inline.runLength (spaces ++ after) = spaces.length →
      (spaces ≠ [] ∨ after.HeadNot continuesCommand) →
      command limit (.start (c.render ++ spaces ++ after))
        = .ok c ⟨(c.render ++ spaces).length, after⟩ := by
    intro spaces after formed fits run stops
    have reads := reads_command formed fits run (headNot_of_runLength run stops) 0
    rwa [Nat.zero_add] at reads
  refine ⟨⟨?_, ?_⟩, fun formed fits spaces after => readBack spaces after formed fits⟩
  · rintro ⟨cursor, next, run⟩
    exact wellFormed_of_command_eq_ok run
  · rintro ⟨formed, fits⟩
    exact ⟨_, _, readBack [] [] formed fits (Spacing.runLength_eq_zero rfl) (.inr nofun)⟩

/-- A command with a parameter, both kinds of arguments and a repetition, and a space behind it. -/
theorem command_reads_applied_type :
    let u32 : Command := ⟨['u', '3', '2'], [], [], none⟩
    let c : Command := ⟨['v', 'e', 'c'], [['n']], [.literal ['x', ' '], .nested u32], some .many⟩
    c.wellFormed = true ∧ c.depth ≤ nestingLimit ∧
      Spacing.inline.runLength ([' '] ++ ['[']) = 1 ∧
      command nestingLimit (.start (c.render ++ [' '] ++ ['[']))
        = .ok c ⟨(c.render ++ [' ']).length, ['[']⟩ := by
  intro u32 c
  have formed : c.wellFormed = true := by decide
  have fits : c.depth ≤ nestingLimit := by decide
  have run : Spacing.inline.runLength ([' '] ++ ['[']) = 1 := by
    rw [Spacing.runLength_append (.char (by decide) rfl _), Spacing.runLength_eq_zero rfl]
    rfl
  exact ⟨formed, fits, run,
    (command_image_and_roundTrip nestingLimit c).2 formed fits [' '] ['['] run (.inl (by decide))⟩

end Parser

end MathGrammar
