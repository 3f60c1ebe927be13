import MathGrammar.Proofs.Symbol.Keys

/-! # What commands stand for

By the case of its letters a command stands for a terminal or for a nonterminal, and the escapes
take an argument for the name. No command is left over, apart from those with letters of both cases,
those that give a block its structure and the escapes without an argument; and the trials in front
of the nonterminal do not get in the way of this, since they go on from it or fail. -/

namespace MathGrammar

/-! ### Letters of names -/

/-- The letters are those of either case. -/
theorem isAlpha_eq (c : Char) : c.isAlpha = (c.isUpper || c.isLower) := rfl

/-- No letter is of both cases. -/
theorem isLower_eq_false_of_isUpper {c : Char} (upper : c.isUpper = true) : c.isLower = false := by
  rw [Bool.eq_false_iff]
  intro lower
  have notBehind : c.val ≤ 0x5A := (of_decide_eq_true upper).2
  have notBefore : 0x61 ≤ c.val := of_decide_eq_true (Bool.and_eq_true_iff.1 lower).1
  exact absurd (UInt32.le_trans notBefore notBehind) (by decide)

variable {name : Text}

/-- Names are written in ASCII. -/
theorem isAscii_of_isName (named : isName name = true) {a : Char} (mem : a ∈ name) :
    a.toNat < 0x80 := by
  obtain ⟨-, upper⟩ :=
    Spacing.toNat_of_isAlphanum (List.all_eq_true.1 (all_of_isName named) a mem)
  omega

/-- In a name a letter that is not of the one case is of the other. -/
theorem letter_eq_not (named : isName name = true) {a : Char} (mem : a ∈ name) :
    (!isLetter a || isLowerLetter a) = !a.isUpper ∧
      (!isLetter a || isUpperLetter a) = !a.isLower := by
  have ascii := isAscii_of_isName named mem
  rw [isLetter, isLowerLetter, isUpperLetter, if_pos ascii, if_pos ascii, if_pos ascii, isAlpha_eq]
  cases upper : a.isUpper with
  | true => simp [isLower_eq_false_of_isUpper upper]
  | false => simp

/-- The letters of a name are lower-case when it holds no upper-case letter. -/
theorem lettersLower_iff (named : isName name = true) :
    name.lettersLower = true ↔ ∀ a ∈ name, a.isUpper = false := by
  rw [Text.lettersLower, List.all_eq_true]
  refine forall₂_congr fun a mem => ?_
  rw [(letter_eq_not named mem).1, Bool.not_eq_true']

/-- The letters of a name are upper-case when it holds no lower-case letter. -/
theorem lettersUpper_iff (named : isName name = true) :
    name.lettersUpper = true ↔ ∀ a ∈ name, a.isLower = false := by
  rw [Text.lettersUpper, List.all_eq_true]
  refine forall₂_congr fun a mem => ?_
  rw [(letter_eq_not named mem).2, Bool.not_eq_true']

/-! ### Commands -/

namespace Command

/-- The command gives a block its structure, or has letters of both cases. -/
def Misfit (command : Command) : Prop :=
  command.name ∈ structuralNames ∨
    (∃ a ∈ command.name, a.isUpper = true) ∧ ∃ b ∈ command.name, b.isLower = true

/-- The command is an escape without the argument that it takes for the name. -/
def LacksName (command : Command) : Prop :=
  (command.name = terminalEscape ∨ command.name = nonterminalEscape) ∧ command.args = []

/-- The symbol that a command stands for, with the repetition that it carries: the one that an
escape names, and else a terminal or a nonterminal by its letters. -/
inductive StandsFor (command : Command) : Symbol → Prop where
  /-- A terminal that the escape names. -/
  | escapedTerminal {arg : Argument} {others : List Argument}
    (escape : command.name = terminalEscape) (args : command.args = arg :: others) :
    StandsFor command (.terminal ⟨arg.name, command.repetition⟩)
  /-- A nonterminal that the escape names. -/
  | escapedNonterminal {arg : Argument} {others : List Argument}
    (escape : command.name = nonterminalEscape) (args : command.args = arg :: others) :
    StandsFor command (.nonterminal ⟨arg.name, command.repetition⟩)
  /-- A terminal: there are letters, and all of them are upper case. -/
  | upper (notTerminal : command.name ≠ terminalEscape)
    (notNonterminal : command.name ≠ nonterminalEscape)
    (letter : ∃ a ∈ command.name, a.isAlpha = true)
    (upper : ∀ a ∈ command.name, a.isAlpha = true → a.isUpper = true) :
    StandsFor command (.terminal ⟨command.name, command.repetition⟩)
  /-- A nonterminal: no letter is upper case. -/
  | lower (ordinary : command.name ∉ structuralNames)
    (lower : ∀ a ∈ command.name, a.isUpper = false) :
    StandsFor command (.nonterminal ⟨command.name, command.repetition⟩)

variable {c : Command}

/-- No command is left over. -/
theorem classified (c : Command) : c.Misfit ∨ c.LacksName ∨ ∃ s, c.StandsFor s := by
  by_cases structural : c.name ∈ structuralNames
  · exact .inl (.inl structural)
  by_cases terminal : c.name = terminalEscape
  · cases args : c.args with
    | nil => exact .inr (.inl ⟨.inl terminal, args⟩)
    | cons arg others => exact .inr (.inr ⟨_, .escapedTerminal terminal args⟩)
  by_cases nonterminal : c.name = nonterminalEscape
  · cases args : c.args with
    | nil => exact .inr (.inl ⟨.inr nonterminal, args⟩)
    | cons arg others => exact .inr (.inr ⟨_, .escapedNonterminal nonterminal args⟩)
  by_cases lower : ∀ a ∈ c.name, a.isUpper = false
  · exact .inr (.inr ⟨_, .lower structural lower⟩)
  have hasUpper : ∃ a ∈ c.name, a.isUpper = true := by
    simpa using lower
  by_cases hasLower : ∃ b ∈ c.name, b.isLower = true
  · exact .inl (.inr ⟨hasUpper, hasLower⟩)
  · obtain ⟨a, mem, upper⟩ := hasUpper
    refine .inr (.inr ⟨_, .upper terminal nonterminal ⟨a, mem, ?_⟩ fun b mem alpha => ?_⟩)
    · rw [isAlpha_eq, upper, Bool.true_or]
    · rw [isAlpha_eq, Bool.or_eq_true] at alpha
      exact alpha.resolve_right fun isLower => hasLower ⟨b, mem, isLower⟩

/-- The escapes have no letter in lower case. -/
theorem notEscape_of_isLower (hasLower : ∃ b ∈ c.name, b.isLower = true) :
    c.name ≠ terminalEscape ∧ c.name ≠ nonterminalEscape := by
  obtain ⟨b, mem, lower⟩ := hasLower
  constructor <;>
  · intro escape
    rw [escape] at mem
    obtain rfl := List.mem_singleton.1 mem
    exact absurd lower (by decide)

/-- A misfit is neither a terminal nor a nonterminal. -/
theorem Misfit.rejected (misfit : c.Misfit) (named : isName c.name = true) :
    c.toTerminal = .error ⟨.unclassifiable, .terminal⟩ ∧
      c.toNonterminal = .error ⟨.unclassifiable, .nonterminal⟩ := by
  have hasLower : ∃ b ∈ c.name, b.isLower = true := by
    rcases misfit with structural | ⟨-, hasLower⟩
    · simp only [structuralNames, List.mem_cons, List.not_mem_nil, or_false] at structural
      rcases structural with name_eq | name_eq <;>
      · rw [name_eq]
        exact ⟨'d', by decide, rfl⟩
    · exact hasLower
  obtain ⟨notTerminal, notNonterminal⟩ := notEscape_of_isLower hasLower
  constructor
  · refine toTerminal_of_unfit notTerminal ?_
    rw [Bool.eq_false_iff, ne_eq, lettersUpper_iff named]
    simpa using hasLower
  · refine toNonterminal_of_unfit notNonterminal ?_
    rcases misfit with structural | ⟨hasUpper, -⟩
    · exact .inl structural
    · right
      rw [Bool.eq_false_iff, ne_eq, lettersLower_iff named]
      simpa using hasUpper

/-- The terminal escape without an argument is missed as a terminal, the other one as a
nonterminal. -/
theorem LacksName.rejected (lacks : c.LacksName) :
    c.toNonterminal = .error ⟨.unclassifiable, .nonterminal⟩ ∧
        c.toTerminal = .error ⟨.missingArgument, .escapedName c.name⟩ ∨
      c.name = nonterminalEscape ∧
        c.toNonterminal = .error ⟨.missingArgument, .escapedName c.name⟩ := by
  obtain ⟨terminal | nonterminal, none⟩ := lacks
  · refine .inl ⟨toNonterminal_of_terminalEscape terminal, ?_⟩
    rw [toTerminal_of_escape terminal, none, terminal]
  · refine .inr ⟨nonterminal, ?_⟩
    rw [toNonterminal_of_escape nonterminal, none, nonterminal]

/-- A command that stands for a terminal names one, and names no nonterminal. -/
theorem StandsFor.terminal {t : Terminal} (stands : c.StandsFor (.terminal t))
    (named : isName c.name = true) :
    c.toTerminal = .ok t ∧ c.toNonterminal = .error ⟨.unclassifiable, .nonterminal⟩ := by
  cases stands with
  | escapedTerminal escape args =>
      refine ⟨?_, toNonterminal_of_terminalEscape escape⟩
      rw [toTerminal_of_escape escape, args]
  | upper notTerminal notNonterminal letter upper =>
      constructor
      · refine (Parser.toTerminal_eq_ok_iff notTerminal).2
          ⟨(lettersUpper_iff named).2 fun a mem => ?_, rfl⟩
        by_contra lower
        have isUpper := upper a mem (by simp [isAlpha_eq, lower])
        exact lower (isLower_eq_false_of_isUpper isUpper)
      · obtain ⟨a, mem, alpha⟩ := letter
        refine toNonterminal_of_unfit notNonterminal (.inr ?_)
        rw [Bool.eq_false_iff, ne_eq, lettersLower_iff named]
        intro lower
        exact Bool.false_ne_true ((lower a mem).symm.trans (upper a mem alpha))

/-- A command that stands for a nonterminal names one. -/
theorem StandsFor.nonterminal {n : Nonterminal} (stands : c.StandsFor (.nonterminal n))
    (named : isName c.name = true) : c.toNonterminal = .ok n := by
  cases stands with
  | escapedNonterminal escape args => rw [toNonterminal_of_escape escape, args]
  | lower ordinary lower =>
      have notEscape : c.name ≠ nonterminalEscape := by
        intro escape
        rw [escape] at lower
        exact absurd (lower 'X' List.mem_cons_self) (by decide)
      exact (Parser.toNonterminal_eq_ok_iff notEscape).2
        ⟨ordinary, (lettersLower_iff named).2 lower, rfl⟩

/-- As a nonterminal only the escape of nonterminals can miss an argument. -/
theorem missing_of_toNonterminal {complaint : Complaint} (named : isName c.name = true)
    (rejected : c.toNonterminal = .error complaint) (final : complaint.kind.recoverable = false) :
    c.name = nonterminalEscape ∧ c.args = [] ∧
      complaint = ⟨.missingArgument, .escapedName c.name⟩ := by
  -- Every other complaint is that the command is not classified.
  have classifies : c.toNonterminal ≠ .error ⟨.unclassifiable, .nonterminal⟩ := by
    intro unclassifiable
    rw [rejected] at unclassifiable
    obtain rfl := Except.error.inj unclassifiable
    exact nomatch final
  rcases c.classified with misfit | lacks | ⟨s, stands⟩
  · exact absurd (misfit.rejected named).2 classifies
  · rcases lacks.rejected with ⟨unclassifiable, -⟩ | ⟨escape, missing⟩
    · exact absurd unclassifiable classifies
    · rw [missing] at rejected
      exact ⟨escape, lacks.2, (Except.error.inj rejected).symm⟩
  · cases s with
    | terminal t => exact absurd (stands.terminal named).2 classifies
    | nonterminal n =>
        rw [stands.nonterminal named] at rejected
        exact nomatch rejected
    | record | arrow | bracedVector | vector => exact nomatch stands

end Command

/-! ### Readers of one command -/

namespace Parser

variable {limit : Nat} {cursor next : Cursor} {c : Command}

/-- A nonterminal ends for good where its command nests too deeply or is the escape without an
argument. -/
theorem ending_nonterminal (final : (nonterminal limit cursor).isFinal = true) :
    command limit cursor = .tooDeep ∧ nonterminal limit cursor = .tooDeep ∨
      ∃ c next, command limit cursor = .ok c next ∧ c.name = nonterminalEscape ∧ c.args = [] ∧
        nonterminal limit cursor
          = .fail ⟨⟨.missingArgument, .escapedName nonterminalEscape⟩, cursor.offset⟩ := by
  cases run : command limit cursor with
  | ok c next =>
      cases judged : c.toNonterminal with
      | ok n => simp [nonterminal, judge, run, judged, Outcome.isFinal] at final
      | error complaint =>
          have failed : nonterminal limit cursor = .fail (complaint.located cursor.offset) :=
            judge_of_error run judged
          have stays : complaint.kind.recoverable = false := by
            simpa [failed, Outcome.isFinal, Fault.recoverable, Complaint.located] using final
          obtain ⟨escape, none, rfl⟩ :=
            Command.missing_of_toNonterminal (isName_of_command run) judged stays
          refine .inr ⟨c, next, rfl, escape, none, ?_⟩
          rw [failed, escape]
          rfl
  | fail fault =>
      have recoverable := failsRecoverably_command limit run
      simp [nonterminal, judge, run, Outcome.isFinal, recoverable] at final
  | tooDeep => exact .inl ⟨rfl, judge_eq_tooDeep.2 run⟩

/-- A command of a given name ends for good only where it nests too deeply. -/
theorem ending_commandNamed {kind : FaultKind} (mild : kind.recoverable = true) {name : Text}
    (final : (commandNamed limit kind name cursor).isFinal = true) :
    command limit cursor = .tooDeep ∧ commandNamed limit kind name cursor = .tooDeep := by
  cases run : commandNamed limit kind name cursor with
  | ok c next => simp [run, Outcome.isFinal] at final
  | fail fault =>
      have recoverable := failsRecoverably_commandNamed limit mild name run
      simp [run, Outcome.isFinal, recoverable] at final
  | tooDeep => exact ⟨judge_eq_tooDeep.1 run, rfl⟩

/-! ### Commands that are no nonterminals -/

/-- A command that fits no symbol is complained about where it stands. -/
theorem symbol_of_misfit (here : command limit cursor = .ok c next) (misfit : c.Misfit) :
    symbol limit cursor = .fail ⟨⟨.unclassifiable, .grammarSymbol⟩, cursor.offset⟩ := by
  obtain ⟨noTerminal, noNonterminal⟩ := misfit.rejected (isName_of_command here)
  have failed : (terminal limit).map Symbol.terminal cursor
      = .fail ⟨⟨.unclassifiable, .terminal⟩, cursor.offset⟩ :=
    map_of_fail (judge_of_error here noTerminal)
  rw [symbol_of_no_nonterminal here (judge_of_error here noNonterminal) rfl, firstOf_cons,
    orElse_of_fail failed rfl]
  rfl

/-- An escape without its argument is complained about where it stands, and not made up for. -/
theorem symbol_of_lacksName (here : command limit cursor = .ok c next) (lacks : c.LacksName) :
    symbol limit cursor = .fail ⟨⟨.missingArgument, .escapedName c.name⟩, cursor.offset⟩ := by
  rcases lacks.rejected with ⟨noNonterminal, missing⟩ | ⟨-, missing⟩
  · have failed : (terminal limit).map Symbol.terminal cursor
        = .fail ⟨⟨.missingArgument, .escapedName c.name⟩, cursor.offset⟩ :=
      map_of_fail (judge_of_error here missing)
    rw [symbol_of_no_nonterminal here (judge_of_error here noNonterminal) rfl, firstOf_cons,
      orElse_of_isFinal (by rw [failed]; rfl), failed]
  · exact symbol_eq_fail here (judge_of_error here missing) rfl

/-- A command that stands for a terminal is read as that symbol. -/
theorem symbol_of_terminal {t : Terminal} (here : command limit cursor = .ok c next)
    (stands : c.StandsFor (.terminal t)) : symbol limit cursor = .ok (.terminal t) next := by
  obtain ⟨accepted, rejected⟩ := stands.terminal (isName_of_command here)
  exact symbol_eq_terminal (judge_of_error here rejected) rfl (judge_eq_ok.2 ⟨c, here, accepted⟩)

/-! ### Arrows and vectors -/

/-- A place behind the command `c`, which is read up to `next`, at which a nonterminal is read for
the same symbol. -/
inductive InnerPlace (limit : Nat) (c : Command) (next : Cursor) : Cursor → Prop where
  /-- The target of an arrow whose source the command is. -/
  | target {n : Nonterminal} {head : Command} {place : Cursor}
    (source : c.StandsFor (.nonterminal n))
    (arrow : commandNamed limit .unclassifiable ['t', 'o'] next = .ok head place) :
    InnerPlace limit c next place
  /-- The element of a vector, in its parentheses. -/
  | element {place : Cursor} (vector : c.name = ['v', 'e', 'c'])
    (opened : token ['('] .inline next = .ok () place) : InnerPlace limit c next place

/-- How a symbol ends for good behind its command. -/
inductive EndsInside (limit : Nat) (c : Command) (next : Cursor) : Outcome Unit → Prop where
  /-- The nonterminal there misses its argument. -/
  | missing {place after : Cursor} {escape : Command} (inner : InnerPlace limit c next place)
    (read : command limit place = .ok escape after) (named : escape.name = nonterminalEscape)
    (none : escape.args = []) :
    EndsInside limit c next
      (.fail ⟨⟨.missingArgument, .escapedName nonterminalEscape⟩, place.offset⟩)
  /-- The command of an arrow or the one of the nonterminal nests too deeply. -/
  | tooDeep {place : Cursor} (behind : place = next ∨ InnerPlace limit c next place)
    (deep : command limit place = .tooDeep) : EndsInside limit c next .tooDeep

/-- A nonterminal that ends a run for good inside of a symbol misses its argument or nests too
deeply. -/
theorem endsInside_of_nonterminal {place : Cursor} (inner : InnerPlace limit c next place)
    (final : (nonterminal limit place).isFinal = true) :
    EndsInside limit c next (nonterminal limit place).ending := by
  rcases ending_nonterminal final with ⟨deep, ending⟩ | ⟨escape, after, read, named, none, ending⟩
  · rw [ending]
    exact .tooDeep (.inr inner) deep
  · rw [ending]
    exact .missing inner read named none

/-- An arrow behind its source ends for good in its own command or in its target. -/
theorem endsInside_of_arrow {n : Nonterminal} (stands : c.StandsFor (.nonterminal n))
    (read : nonterminal limit cursor = .ok n next) (final : (arrow limit cursor).isFinal = true) :
    EndsInside limit c next (arrow limit cursor).ending := by
  unfold arrow at final ⊢
  rw [bind_apply, read, Outcome.bind_ok] at final ⊢
  rcases isFinal_bind final with ⟨stopped, ending⟩ | ⟨head, place, named, run⟩
  · obtain ⟨deep, tooDeep⟩ := ending_commandNamed rfl stopped
    rw [ending, tooDeep]
    exact .tooDeep (.inl rfl) deep
  rw [run] at final ⊢
  rcases isFinal_bind final with ⟨stopped, ending⟩ | ⟨target, after, -, run⟩
  · rw [ending]
    exact endsInside_of_nonterminal (.target stands named) stopped
  · rw [run] at final
    exact nomatch final

/-- A vector behind its command ends for good in its nonterminal. -/
theorem endsInside_of_vector (here : command limit cursor = .ok c next)
    (final : (vector limit cursor).isFinal = true) :
    EndsInside limit c next (vector limit cursor).ending := by
  unfold vector at final ⊢
  rcases isFinal_bind final with ⟨stopped, -⟩ | ⟨head, between, named, run⟩
  · rw [(ending_commandNamed rfl stopped).1] at here
    cases here
  obtain ⟨read, name_eq⟩ := commandNamed_eq_ok_iff.1 named
  obtain ⟨rfl, rfl⟩ := Outcome.ok.inj (read.symm.trans here)
  rw [run] at final ⊢
  rcases isFinal_bind final with ⟨stopped, -⟩ | ⟨_, place, opened, run⟩
  · rw [harmless_token] at stopped
    cases stopped
  rw [run] at final ⊢
  rcases isFinal_bind final with ⟨stopped, ending⟩ | ⟨element, after, -, run⟩
  · rw [ending]
    exact endsInside_of_nonterminal (.element name_eq opened) stopped
  · rw [run, ((harmless_token _ _).bind fun _ => harmless_pure _) after] at final
    cases final

/-! ### Commands that are nonterminals -/

/-- Where a command stands for a nonterminal there is a symbol, unless the reader of an arrow or of
a vector goes on from it and ends for good. -/
theorem symbol_of_nonterminal {n : Nonterminal} (here : command limit cursor = .ok c next)
    (stands : c.StandsFor (.nonterminal n)) :
    (∃ s after, symbol limit cursor = .ok s after) ∨
      EndsInside limit c next (symbol limit cursor).ending := by
  have read : nonterminal limit cursor = .ok n next :=
    judge_eq_ok.2 ⟨c, here, stands.nonterminal (isName_of_command here)⟩
  obtain ⟨⟨_, noRecord, recordRecoverable⟩, _, noBraced, bracedRecoverable⟩ :=
    shapes_fail_of_command here
  -- Without a sign in front the arrow and the vector are all that is tried before the nonterminal.
  unfold symbol
  rw [firstOf_cons, orElse_of_fail (map_of_fail noRecord) recordRecoverable, firstOf_cons]
  rcases orElse_cases ((arrow limit).map Symbol.arrow)
    (firstOf _ ⟨.unclassifiable, .grammarSymbol⟩) cursor with
    ⟨s, after, run, -⟩ | ⟨final, run⟩ | run
  · exact .inl ⟨s, after, run⟩
  · rw [isFinal_map] at final
    rw [run, ending_map]
    exact .inr (endsInside_of_arrow stands read final)
  rw [run, firstOf_cons, orElse_of_fail (map_of_fail noBraced) bracedRecoverable, firstOf_cons]
  rcases orElse_cases ((vector limit).map Symbol.vector)
    (firstOf _ ⟨.unclassifiable, .grammarSymbol⟩) cursor with
    ⟨s, after, run, -⟩ | ⟨final, run⟩ | run
  · exact .inl ⟨s, after, run⟩
  · rw [isFinal_map] at final
    rw [run, ending_map]
    exact .inr (endsInside_of_vector here final)
  · rw [run, firstOf_cons]
    exact .inl ⟨.nonterminal n, next, orElse_eq_ok.2 (.inl (map_eq_ok.2 ⟨n, read, rfl⟩))⟩

/-! ### Symbols that are read -/

/-- A symbol that starts with a command is what the command stands for, if it is neither an arrow
nor a vector. -/
theorem standsFor_of_symbol {s : Symbol} {after : Cursor} (here : command limit cursor = .ok c next)
    (run : symbol limit cursor = .ok s after) :
    (∃ a, s = .arrow a) ∨ (∃ v, s = .vector v) ∨ after = next ∧ c.StandsFor s := by
  rcases c.classified with misfit | lacks | ⟨stood, stands⟩
  · rw [symbol_of_misfit here misfit] at run
    exact nomatch run
  · rw [symbol_of_lacksName here lacks] at run
    exact nomatch run
  cases stood with
  | terminal t =>
      rw [symbol_of_terminal here stands] at run
      obtain ⟨rfl, rfl⟩ := Outcome.ok.inj run
      exact .inr (.inr ⟨rfl, stands⟩)
  | nonterminal n =>
      have read : nonterminal limit cursor = .ok n next :=
        judge_eq_ok.2 ⟨c, here, stands.nonterminal (isName_of_command here)⟩
      obtain ⟨⟨_, noRecord, -⟩, _, noBraced, -⟩ := shapes_fail_of_command here
      cases symbolRun_of_symbol run with
      | record shape => exact nomatch noRecord.symm.trans shape
      | arrow shape => exact .inl ⟨_, rfl⟩
      | bracedVector shape => exact nomatch noBraced.symm.trans shape
      | vector shape => exact .inr (.inl ⟨_, rfl⟩)
      | nonterminal _ shape =>
          obtain ⟨rfl, rfl⟩ := Outcome.ok.inj (read.symm.trans shape)
          exact .inr (.inr ⟨rfl, stands⟩)
      | terminal noNonterminal _ => exact nomatch noNonterminal.symm.trans read
  | record | arrow | bracedVector | vector => exact nomatch stands

/-- Without a command in front only the shapes that start with a sign are left. -/
theorem signed_of_symbol {s : Symbol} {after : Cursor}
    (noCommand : ∀ c next, command limit cursor ≠ .ok c next)
    (run : symbol limit cursor = .ok s after) :
    (∃ r, s = .record r) ∨ ∃ b, s = .bracedVector b := by
  cases symbolRun_of_symbol run with
  | record shape => exact .inl ⟨_, rfl⟩
  | bracedVector shape => exact .inr ⟨_, rfl⟩
  | arrow shape =>
      obtain ⟨source, between, read, -⟩ := bind_eq_ok.1 shape
      obtain ⟨c, here, -⟩ := judge_eq_ok.1 read
      exact absurd here (noCommand c between)
  | vector shape =>
      obtain ⟨c, between, named, -⟩ := bind_eq_ok.1 shape
      exact absurd (commandNamed_eq_ok_iff.1 named).1 (noCommand c between)
  | nonterminal _ shape =>
      obtain ⟨c, here, -⟩ := judge_eq_ok.1 shape
      exact absurd here (noCommand c after)
  | terminal _ shape =>
      obtain ⟨c, here, -⟩ := judge_eq_ok.1 shape
      exact absurd here (noCommand c after)

/-! ### The main result -/

/-- **Commands are classified by their letters.** Where a command is read, the reader of symbols
fails recoverably on the misfits and on nothing else, and complains where the command starts; on an
escape without an argument it misses that. From every other command there is a symbol, unless the
nonterminal escape misses its argument behind an arrow or in a vector, or commands nest too deeply
there. If the symbol is neither an arrow nor a vector, it is the one that the command stands for,
and ends with it. Where no command is read, only records and braced vectors are left. -/
theorem symbol_follows_letter_case (limit : Nat) (cursor : Cursor) :
    (∀ c next, command limit cursor = .ok c next →
      ((∃ fault, symbol limit cursor = .fail fault ∧ fault.recoverable = true) ↔ c.Misfit) ∧
      (c.Misfit →
        symbol limit cursor = .fail ⟨⟨.unclassifiable, .grammarSymbol⟩, cursor.offset⟩) ∧
      (c.LacksName →
        symbol limit cursor = .fail ⟨⟨.missingArgument, .escapedName c.name⟩, cursor.offset⟩) ∧
      (¬c.Misfit → ¬c.LacksName →
        (∃ s after, symbol limit cursor = .ok s after) ∨
        (∃ place escape after, InnerPlace limit c next place ∧
          command limit place = .ok escape after ∧ escape.name = nonterminalEscape ∧
          escape.args = [] ∧ symbol limit cursor
            = .fail ⟨⟨.missingArgument, .escapedName nonterminalEscape⟩, place.offset⟩) ∨
        symbol limit cursor = .tooDeep ∧ ∃ place,
          (place = next ∨ InnerPlace limit c next place) ∧ command limit place = .tooDeep) ∧
      ∀ s after, symbol limit cursor = .ok s after →
        (∃ a, s = .arrow a) ∨ (∃ v, s = .vector v) ∨ after = next ∧ c.StandsFor s) ∧
    ((∀ c next, command limit cursor ≠ .ok c next) →
      ∀ s after, symbol limit cursor = .ok s after →
        (∃ r, s = .record r) ∨ ∃ b, s = .bracedVector b) := by
  refine ⟨fun c next here => ?_, fun noCommand s after run => signed_of_symbol noCommand run⟩
  have others (notMisfit : ¬c.Misfit) (names : ¬c.LacksName) :
      (∃ s after, symbol limit cursor = .ok s after) ∨
        EndsInside limit c next (symbol limit cursor).ending := by
    rcases c.classified with misfit | lacks | ⟨stood, stands⟩
    · exact absurd misfit notMisfit
    · exact absurd lacks names
    cases stood with
    | terminal t => exact .inl ⟨_, _, symbol_of_terminal here stands⟩
    | nonterminal n => exact symbol_of_nonterminal here stands
    | record | arrow | bracedVector | vector => exact nomatch stands
  refine ⟨⟨?_, fun misfit => ⟨_, symbol_of_misfit here misfit, rfl⟩⟩, symbol_of_misfit here,
    symbol_of_lacksName here, fun notMisfit names => ?_,
    fun s after run => standsFor_of_symbol here run⟩
  · rintro ⟨fault, failed, recoverable⟩
    by_contra notMisfit
    by_cases lacks : c.LacksName
    · rw [symbol_of_lacksName here lacks] at failed
      obtain rfl := Outcome.fail.inj failed
      exact nomatch recoverable
    · rcases others notMisfit lacks with ⟨s, after, run⟩ | ends
      · exact nomatch failed.symm.trans run
      · rw [failed] at ends
        cases ends with
        | missing inner read named none => exact nomatch recoverable
  · refine (others notMisfit names).imp_right fun ends => ?_
    generalize ending_eq : (symbol limit cursor).ending = ending at ends
    cases ends with
    | missing inner read named none =>
        exact .inl ⟨_, _, _, inner, read, named, none, Outcome.ending_eq_fail_iff.1 ending_eq⟩
    | tooDeep behind deep =>
        exact .inr ⟨Outcome.ending_eq_tooDeep_iff.1 ending_eq, _, behind, deep⟩

/-- A command of both cases, and a vector whose element misses its argument. -/
theorem symbol_classifies_misfit_and_bare_vector :
    let misfit : Command := ⟨['a', 'B'], [], [], some .optional⟩
    let text : Text := "\\vec(\\X)".toList
    let vec : Command := ⟨['v', 'e', 'c'], [], [], none⟩
    command nestingLimit (.start "\\aB^? ".toList) = .ok misfit ⟨6, []⟩ ∧ misfit.Misfit ∧
      symbol nestingLimit (.start "\\aB^? ".toList) = .fail ⟨⟨.unclassifiable, .grammarSymbol⟩, 0⟩ ∧
      command nestingLimit (.start text) = .ok vec (.ofOffset text 4) ∧ ¬vec.Misfit ∧
      ¬vec.LacksName ∧ ∃ place, InnerPlace nestingLimit vec (.ofOffset text 4) place ∧
        symbol nestingLimit (.start text)
          = .fail ⟨⟨.missingArgument, .escapedName nonterminalEscape⟩, place.offset⟩ := by
  intro misfit text vec
  have read : command nestingLimit (.start "\\aB^? ".toList) = .ok misfit ⟨6, []⟩ := by
    decide +kernel
  have isMisfit : misfit.Misfit := .inr ⟨⟨'B', by decide, rfl⟩, 'a', by decide, rfl⟩
  have readVec : command nestingLimit (.start text) = .ok vec (.ofOffset text 4) := by
    decide +kernel
  have notMisfit : ¬vec.Misfit := by
    rintro (structural | ⟨⟨a, mem, upper⟩, -⟩)
    · exact absurd structural (by decide)
    · simp only [vec, List.mem_cons, List.not_mem_nil, or_false] at mem
      rcases mem with rfl | rfl | rfl <;> exact absurd upper (by decide)
  have names : ¬vec.LacksName := by
    rintro ⟨escape | escape, -⟩ <;> exact absurd escape (by decide)
  have failed : symbol nestingLimit (.start text)
      = .fail ⟨⟨.missingArgument, .escapedName nonterminalEscape⟩, 5⟩ := by
    decide +kernel
  obtain ⟨-, unclassified, -⟩ := (symbol_follows_letter_case nestingLimit _).1 _ _ read
  obtain ⟨-, -, -, others, -⟩ := (symbol_follows_letter_case nestingLimit _).1 _ _ readVec
  refine ⟨read, isMisfit, unclassified isMisfit, readVec, notMisfit, names, ?_⟩
  rcases others notMisfit names with ⟨s, after, run⟩ |
    ⟨place, _, _, inner, -, -, -, run⟩ | ⟨deep, -⟩
  · exact nomatch failed.symm.trans run
  · exact ⟨place, inner, run⟩
  · exact nomatch failed.symm.trans deep

end Parser

end MathGrammar
