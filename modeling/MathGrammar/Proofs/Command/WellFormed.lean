import MathGrammar.Command.Parser
import MathGrammar.Proofs.Success
import MathGrammar.Proofs.Text

/-! # Well-formed commands

A command is well formed when its name and its parameters are names, its literal arguments hold only
the characters of literals, and the commands in its other arguments are well formed. Reading gives
nothing else, and no command that nests more deeply than the limit. -/

namespace MathGrammar

/-- Whether the text is a name: one letter or digit or more, and nothing else. -/
def isName (text : Text) : Bool := !text.isEmpty && text.all Char.isAlphanum

mutual

/-- Whether the argument is well formed. -/
def Argument.wellFormed : Argument → Bool
  | .literal text => text.all isLiteralChar
  | .nested command => command.wellFormed

/-- Whether the command is well formed. -/
def Command.wellFormed : Command → Bool
  | ⟨name, params, args, _⟩ => isName name && params.all isName && Argument.allWellFormed args

/-- Whether all the arguments are well formed. -/
def Argument.allWellFormed : List Argument → Bool
  | [] => true
  | arg :: args => arg.wellFormed && Argument.allWellFormed args

end

mutual

/-- How many commands are open at once inside the argument. -/
def Argument.depth : Argument → Nat
  | .literal _ => 0
  | .nested command => command.depth

/-- How many commands are open at once, the command itself included. -/
def Command.depth : Command → Nat
  | ⟨_, _, args, _⟩ => Argument.depthAll args + 1

/-- How many commands are open at once inside the arguments. -/
def Argument.depthAll : List Argument → Nat
  | [] => 0
  | arg :: args => max arg.depth (Argument.depthAll args)

end

/-- Arguments are well formed when each of them is. -/
@[simp] theorem Argument.allWellFormed_iff {args : List Argument} :
    Argument.allWellFormed args = true ↔ ∀ arg ∈ args, arg.wellFormed = true := by
  induction args with
  | nil => simp [Argument.allWellFormed]
  | cons arg args ih => simp [Argument.allWellFormed, ih]

/-- A command is well formed when its name, its parameters and its arguments are. -/
theorem Command.wellFormed_iff {command : Command} : command.wellFormed = true ↔
    isName command.name = true ∧ command.params.all isName = true ∧
      ∀ arg ∈ command.args, arg.wellFormed = true := by
  cases command
  rw [Command.wellFormed, Bool.and_eq_true, Bool.and_eq_true, Argument.allWellFormed_iff, and_assoc]

/-- Arguments are no deeper than a limit when none of them is. -/
@[simp] theorem Argument.depthAll_le_iff {args : List Argument} {limit : Nat} :
    Argument.depthAll args ≤ limit ↔ ∀ arg ∈ args, arg.depth ≤ limit := by
  induction args with
  | nil => simp [Argument.depthAll]
  | cons arg args ih => rw [Argument.depthAll, Nat.max_le, ih, List.forall_mem_cons]

/-! ### Names -/

/-- A name consists of letters and digits. -/
theorem all_of_isName {name : Text} (named : isName name = true) :
    name.all Char.isAlphanum = true := by
  rw [isName, Bool.and_eq_true] at named
  exact named.2

/-- A name is a literal. -/
theorem all_isLiteralChar_of_isName {name : Text} (named : isName name = true) :
    name.all isLiteralChar = true := by
  have letters := all_of_isName named
  rw [List.all_eq_true] at letters ⊢
  intro c mem
  simp [isLiteralChar, letters c mem]

/-- The name that an argument gives is a literal, also when the argument is a command. -/
theorem all_isLiteralChar_name {arg : Argument} (formed : arg.wellFormed = true) :
    arg.name.all isLiteralChar = true := by
  cases arg with
  | literal text => exact formed
  | nested c =>
      rw [Argument.wellFormed, Command.wellFormed_iff] at formed
      exact all_isLiteralChar_of_isName formed.1

/-! ### What the parts give -/

/-- Letters and digits in front of a text make a name, if there are any. -/
theorem isName_takeWhile {text : Text} (ne : text.takeWhile Char.isAlphanum ≠ []) :
    isName (text.takeWhile Char.isAlphanum) = true := by
  simp only [isName, List.all_takeWhile, Bool.and_true, Bool.not_eq_true',
    List.isEmpty_eq_false_iff]
  exact ne

/-- What is scanned as the content of a literal is plain. -/
theorem isLiteralChar_of_scanLiteral? {depth length : Nat} {text content : Text}
    (scanned : scanLiteral? depth text = some (content, length)) :
    content.all isLiteralChar = true := by
  -- Braces are dropped from the content, and any other character is checked when it is taken.
  induction text generalizing depth content length with
  | nil => simp [scanLiteral?] at scanned
  | cons c rest ih =>
      unfold scanLiteral? at scanned
      split at scanned
      · obtain ⟨⟨inner, n⟩, found, eq⟩ := Option.map_eq_some_iff.1 scanned
        obtain ⟨rfl, -⟩ := Prod.mk.inj eq
        exact ih found
      · split at scanned
        · split at scanned
          · obtain ⟨rfl, -⟩ := Prod.mk.inj (Option.some.inj scanned)
            rfl
          · obtain ⟨⟨inner, n⟩, found, eq⟩ := Option.map_eq_some_iff.1 scanned
            obtain ⟨rfl, -⟩ := Prod.mk.inj eq
            exact ih found
        · split at scanned
          · rename_i isLiteral
            obtain ⟨⟨inner, n⟩, found, eq⟩ := Option.map_eq_some_iff.1 scanned
            obtain ⟨rfl, -⟩ := Prod.mk.inj eq
            rw [List.all_cons, isLiteral, ih found]
            rfl
          · simp at scanned

namespace Parser

variable {cursor next : Cursor}

/-- A command's name is the longest run of letters and digits behind its backslash. -/
theorem exists_of_commandName_eq_ok {name : Text} (run : commandName cursor = .ok name next) :
    ∃ rest, cursor.rest = '\\' :: rest ∧ rest.takeWhile Char.isAlphanum = name ∧ name ≠ [] ∧
      next = cursor.advance (name.length + 1) := by
  unfold commandName at run
  split at run
  · rename_i rest text_eq
    dsimp only at run
    split at run
    · simp at run
    · rename_i ne
      obtain ⟨rfl, rfl⟩ := Outcome.ok.inj run
      exact ⟨rest, text_eq, rfl, by simpa using ne, rfl⟩
  · simp at run

/-- Parameters that are read are names. -/
theorem isName_of_params_eq_ok {names : List Text} (run : params cursor = .ok names next) :
    names.all isName = true := by
  unfold params at run
  split at run
  · rename_i rest text_eq
    dsimp only at run
    split at run
    · rename_i listed
      obtain ⟨rfl, -⟩ := Outcome.ok.inj run
      rw [Bool.and_eq_true, List.all_eq_true] at listed
      rw [List.all_eq_true]
      intro name mem
      have alphanumeric : name.all Char.isAlphanum = true := by
        rw [List.all_eq_true]
        intro c inside
        -- Between the brackets stand letters, digits and commas, and the pieces hold no comma.
        obtain ⟨mem_inside, ne⟩ := mem_of_mem_splitOn mem inside
        have allowed := List.all_eq_true.1 List.all_takeWhile c mem_inside
        simpa [ne] using allowed
      rw [isName, listed.1 name mem, alphanumeric]
      rfl
    · obtain ⟨rfl, -⟩ := Outcome.ok.inj run
      rfl
  · obtain ⟨rfl, -⟩ := Outcome.ok.inj run
    rfl

/-- An argument is well formed when the commands in it are. -/
theorem wellFormed_of_argument_eq_ok {inner : Parser Command} {limit : Nat}
    (commands : ∀ {cursor next : Cursor} {command : Command},
      inner cursor = .ok command next → command.wellFormed = true ∧ command.depth ≤ limit)
    {arg : Argument} (run : argument inner cursor = .ok arg next) :
    arg.wellFormed = true ∧ arg.depth ≤ limit := by
  obtain ⟨_, inside, -, run⟩ := bind_eq_ok.1 run
  obtain ⟨p, mem, run⟩ := exists_of_firstOf_eq_ok run
  simp only [List.mem_cons, List.not_mem_nil, or_false] at mem
  rcases mem with rfl | rfl
  · obtain ⟨command, closing, read, run⟩ := bind_eq_ok.1 run
    obtain ⟨_, _, -, run⟩ := bind_eq_ok.1 run
    obtain ⟨rfl, -⟩ := pure_eq_ok.1 run
    exact commands read
  · unfold literalArgument at run
    split at run
    · rename_i scanned
      obtain ⟨rfl, -⟩ := Outcome.ok.inj run
      exact ⟨isLiteralChar_of_scanLiteral? scanned, Nat.zero_le limit⟩
    · simp at run

/-- A command is read part by part. -/
theorem exists_of_command_eq_ok {limit : Nat} {command : Command}
    (run : Parser.command limit cursor = .ok command next) :
    ∃ inner named listed applied marked, limit = inner + 1 ∧
      commandName cursor = .ok command.name named ∧ params named = .ok command.params listed ∧
      many (argument (Parser.command inner)) listed = .ok command.args applied ∧
      repetition applied = .ok command.repetition marked ∧ next = marked.skip .inline := by
  cases limit with
  | zero =>
      obtain ⟨_, _, -, run⟩ := bind_eq_ok.1 run
      simp [giveUp] at run
  | succ inner =>
      obtain ⟨name, named, named_eq, run⟩ := bind_eq_ok.1 run
      obtain ⟨params, listed, listed_eq, run⟩ := bind_eq_ok.1 run
      obtain ⟨args, applied, applied_eq, run⟩ := bind_eq_ok.1 run
      obtain ⟨repetition, marked, marked_eq, run⟩ := bind_eq_ok.1 run
      obtain ⟨_, _, skipped, run⟩ := bind_eq_ok.1 run
      obtain ⟨rfl, rfl⟩ := pure_eq_ok.1 run
      obtain ⟨-, rfl⟩ := Outcome.ok.inj skipped
      exact ⟨inner, named, listed, applied, marked, rfl, named_eq, listed_eq, applied_eq, marked_eq,
        rfl⟩

/-- Reading a command gives a well-formed one that fits the limit on nesting. -/
theorem wellFormed_of_command_eq_ok {limit : Nat} {command : Command}
    (run : Parser.command limit cursor = .ok command next) :
    command.wellFormed = true ∧ command.depth ≤ limit := by
  -- On the limit: the commands inside the arguments are read under the limit before it.
  induction limit generalizing cursor next command with
  | zero =>
      obtain ⟨_, _, _, _, _, limit_eq, -⟩ := exists_of_command_eq_ok run
      exact absurd limit_eq (Nat.zero_ne_add_one _)
  | succ limit ih =>
      obtain ⟨_, _, _, _, _, limit_eq, named, listed, applied, -, -⟩ := exists_of_command_eq_ok run
      obtain rfl := Nat.succ.inj limit_eq
      obtain ⟨name, params, args, repetition⟩ := command
      obtain ⟨rest, -, rfl, ne, -⟩ := exists_of_commandName_eq_ok named
      have each : ∀ arg ∈ args, arg.wellFormed = true ∧ arg.depth ≤ limit :=
        (items_of_many applied).forall_mem (wellFormed_of_argument_eq_ok ih)
      constructor
      · rw [Command.wellFormed, isName_takeWhile ne, isName_of_params_eq_ok listed,
          Argument.allWellFormed_iff.2 fun arg mem => (each arg mem).1]
        rfl
      · rw [Command.depth]
        exact Nat.succ_le_succ (Argument.depthAll_le_iff.2 fun arg mem => (each arg mem).2)

/-- A command of a given name is a command, and has that name. -/
theorem commandNamed_eq_ok_iff {limit : Nat} {kind : FaultKind} {name : Text} {read : Command} :
    commandNamed limit kind name cursor = .ok read next ↔
      command limit cursor = .ok read next ∧ read.name = name := by
  unfold commandNamed
  rw [judge_eq_ok]
  constructor
  · rintro ⟨result, run, accepted⟩
    by_cases named : result.name = name
    · rw [if_pos named] at accepted
      obtain rfl := Except.ok.inj accepted
      exact ⟨run, named⟩
    · rw [if_neg named] at accepted
      exact absurd accepted nofun
  · rintro ⟨run, named⟩
    exact ⟨read, run, if_pos named⟩

end Parser

end MathGrammar
