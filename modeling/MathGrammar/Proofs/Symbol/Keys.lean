import MathGrammar.Proofs.Endings
import MathGrammar.Proofs.Symbol.Yields

/-! # The keys of records

The reader of terminals knows its own escape only, and the key of a record field is read by it
alone. The command of the other escape is therefore a key by its own name, where a symbol would be a
nonterminal or miss its argument. -/

namespace MathGrammar

variable {limit : Nat} {cursor next : Cursor} {c : Command}

/-! ### Symbols where a terminal can be read -/

namespace Parser

/-- Neither a record nor a braced vector starts with a command. -/
theorem shapes_fail_of_command (here : command limit cursor = .ok c next) :
    (∃ fault, record limit cursor = .fail fault ∧ fault.recoverable = true) ∧
      ∃ fault, bracedVector limit cursor = .fail fault ∧ fault.recoverable = true := by
  obtain ⟨rest, rest_eq, -⟩ := exists_of_command here
  have named := isName_of_command here
  constructor
  · refine record_refuses ?_ cursor.offset
    rintro ⟨tail, tail_eq⟩
    rw [rest_eq] at tail_eq
    -- The name would start with the brace.
    cases name_eq : c.name with
    | nil => simp [name_eq, isName] at named
    | cons d name =>
        rw [name_eq] at tail_eq named
        obtain rfl : '\x7b' = d := (List.cons.inj (List.cons.inj tail_eq).2).1
        exact absurd (List.all_eq_true.1 (all_of_isName named) _ List.mem_cons_self) (by decide)
  · refine bracedVector_refuses ?_ cursor.offset
    rintro ⟨tail, tail_eq⟩
    rw [rest_eq] at tail_eq
    exact absurd (List.cons.inj tail_eq).1 (by decide)

/-- A symbol that starts like a nonterminal ends with a fault that rules out any other shape. -/
theorem symbol_eq_fail {fault : Fault} (here : command limit cursor = .ok c next)
    (failed : nonterminal limit cursor = .fail fault) (final : fault.recoverable = false) :
    symbol limit cursor = .fail fault := by
  obtain ⟨⟨_, noRecord, recoverable⟩, -⟩ := shapes_fail_of_command here
  have noArrow : (arrow limit).map Symbol.arrow cursor = .fail fault :=
    map_of_fail (bind_of_fail failed)
  have ends : ((arrow limit).map Symbol.arrow cursor).isFinal = true := by
    rw [noArrow, Outcome.isFinal, final]
    rfl
  unfold symbol
  rw [firstOf_cons, orElse_of_fail (map_of_fail noRecord) recoverable, firstOf_cons,
    orElse_of_isFinal ends, noArrow]

/-- Where a command is no nonterminal, only a terminal is left to try. -/
theorem symbol_of_no_nonterminal {fault : Fault} (here : command limit cursor = .ok c next)
    (noNonterminal : nonterminal limit cursor = .fail fault)
    (recoverable : fault.recoverable = true) :
    symbol limit cursor
      = firstOf [(terminal limit).map .terminal] ⟨.unclassifiable, .grammarSymbol⟩ cursor := by
  obtain ⟨⟨_, noRecord, recordRecoverable⟩, _, noBraced, bracedRecoverable⟩ :=
    shapes_fail_of_command here
  have noArrow : arrow limit cursor = .fail fault := bind_of_fail noNonterminal
  -- The command of a vector would be a nonterminal.
  have notVector : c.name ≠ ['v', 'e', 'c'] := by
    intro name_eq
    have named : commandNamed limit .unclassifiable ['v', 'e', 'c'] cursor = .ok c next :=
      commandNamed_eq_ok_iff.2 ⟨here, name_eq⟩
    obtain ⟨n, asNonterminal⟩ :=
      exists_nonterminal_of_commandNamed named (by decide) (by decide)
    simp [noNonterminal] at asNonterminal
  have noVector : vector limit cursor
      = .fail ⟨⟨.unclassifiable, .commandNamed ['v', 'e', 'c']⟩, cursor.offset⟩ :=
    bind_of_fail (judge_of_error here (if_neg notVector))
  unfold symbol
  rw [firstOf_cons, orElse_of_fail (map_of_fail noRecord) recordRecoverable,
    firstOf_cons, orElse_of_fail (map_of_fail noArrow) recoverable,
    firstOf_cons, orElse_of_fail (map_of_fail noBraced) bracedRecoverable,
    firstOf_cons, orElse_of_fail (map_of_fail noVector) rfl,
    firstOf_cons, orElse_of_fail (map_of_fail noNonterminal) recoverable]

/-- What is a terminal and no nonterminal is read as the terminal. -/
theorem symbol_eq_terminal {t : Terminal} {fault : Fault}
    (noNonterminal : nonterminal limit cursor = .fail fault)
    (recoverable : fault.recoverable = true)
    (read : terminal limit cursor = .ok t next) :
    symbol limit cursor = .ok (.terminal t) next := by
  obtain ⟨c, here, -⟩ := judge_eq_ok.1 read
  rw [symbol_of_no_nonterminal here noNonterminal recoverable, firstOf_cons, orElse_eq_ok]
  exact .inl (map_eq_ok.2 ⟨t, read, rfl⟩)

/-- What is a terminal is read as that terminal where it is a symbol, except by its own name if it
is the nonterminal escape or has no letters. -/
theorem symbol_eq_terminal_iff {t : Terminal} (here : command limit cursor = .ok c next)
    (accepted : c.toTerminal = .ok t) : symbol limit cursor = .ok (.terminal t) next ↔
      c.name ≠ nonterminalEscape ∧ c.name.lettersLower = false := by
  constructor
  · intro run
    cases symbolRun_of_symbol run with
    | terminal noNonterminal _ =>
        refine ⟨fun escape => ?_, Bool.eq_false_iff.2 fun lower => ?_⟩
        · have judged := Command.toNonterminal_of_escape escape
          cases args_eq : c.args with
          | nil =>
              rw [args_eq] at judged
              rw [symbol_eq_fail here (judge_of_error here judged) rfl] at run
              exact absurd run nofun
          | cons arg others =>
              rw [args_eq] at judged
              have asNonterminal := judge_eq_ok.2 ⟨c, here, judged⟩
              exact absurd (noNonterminal.symm.trans asNonterminal) nofun
        · by_cases escape : c.name = nonterminalEscape
          · rw [escape] at lower
            exact absurd lower (by decide)
          · have asNonterminal := judge_eq_ok.2 ⟨c, here, (toNonterminal_eq_ok_iff escape).2
              ⟨Command.not_structural_of_toTerminal accepted, lower, rfl⟩⟩
            exact absurd (noNonterminal.symm.trans asNonterminal) nofun
  · rintro ⟨notEscape, notLower⟩
    have rejected := Command.toNonterminal_of_unfit notEscape (.inr notLower)
    exact symbol_eq_terminal (judge_of_error here rejected) rfl (judge_eq_ok.2 ⟨c, here, accepted⟩)

/-! ### The fields of a record -/

/-- Where the field behind the given ones starts: behind the opening brace, or behind the comma
after the last of them. -/
inductive FieldStart (limit : Nat) (cursor : Cursor) :
    List (Terminal × FieldValue) → Cursor → Prop where
  /-- The first field. -/
  | opening {start : Cursor} (opened : token ['\\', '\x7b'] .inline cursor = .ok () start) :
    FieldStart limit cursor [] start
  /-- A field behind another one. -/
  | comma {before : List (Terminal × FieldValue)} {field : Terminal × FieldValue}
    {last behind start : Cursor} (others : FieldStart limit cursor before last)
    (read : recordField limit last = .ok field behind)
    (separated : literal [','] behind = .ok () start) :
    FieldStart limit cursor (before ++ [field]) start

/-- From one field on every other one starts behind a comma. -/
theorem FieldStart.of_items {before others inFront behind : List (Terminal × FieldValue)}
    {first field : Terminal × FieldValue} {start between : Cursor}
    (starts : FieldStart limit cursor before start)
    (read : recordField limit start = .ok first between)
    (items : Items (literal [','] >>= fun _ => recordField limit) between others next)
    (split : first :: others = inFront ++ field :: behind) :
    ∃ place after, FieldStart limit cursor (before ++ inFront) place ∧
      recordField limit place = .ok field after := by
  induction items generalizing before first start inFront with
  | nil between =>
      obtain ⟨rfl, rfl, -⟩ : inFront = [] ∧ field = first ∧ behind = [] := by
        simpa [List.cons_eq_append_iff] using split
      exact ⟨start, between, by rwa [List.append_nil], read⟩
  | @cons between after _ second others item _ ih =>
      obtain ⟨_, comma, separated, second⟩ := bind_eq_ok.1 item
      cases inFront with
      | nil =>
          obtain ⟨rfl, -⟩ := List.cons.inj split
          exact ⟨start, between, by rwa [List.append_nil], read⟩
      | cons head inFront =>
          obtain ⟨rfl, others_eq⟩ := List.cons.inj split
          obtain ⟨place, last, found⟩ := ih (.comma starts read separated) second others_eq
          exact ⟨place, last, by rwa [List.append_assoc] at found⟩

/-- Every field of a record is read where it starts. -/
theorem exists_fieldStart {r : Record} {before after : List (Terminal × FieldValue)}
    {field : Terminal × FieldValue} (run : record limit cursor = .ok r next)
    (fields : r.fields = before ++ field :: after) :
    ∃ start behind, FieldStart limit cursor before start ∧
      recordField limit start = .ok field behind := by
  obtain ⟨_, start, opened, run⟩ := bind_eq_ok.1 run
  obtain ⟨all, closing, read, run⟩ := bind_eq_ok.1 run
  obtain ⟨_, _, -, last⟩ := bind_eq_ok.1 run
  obtain ⟨rfl, -⟩ := pure_eq_ok.1 last
  obtain ⟨first, between, others, first_eq, items, rfl⟩ := items_of_separated1 read
  exact (FieldStart.opening opened).of_items first_eq items fields

/-- **What the keys of a record are read from.** Every key has the name that its command gives to a
terminal, whichever field it starts. As a symbol it is read as the same terminal, except by its own
name when that has no letters or is the nonterminal escape: a key is read from that escape whatever
its arguments, where the symbol is the nonterminal that the first one names, or misses it. -/
theorem record_key_is_symbol_iff {r : Record} {before after : List (Terminal × FieldValue)}
    {field : Terminal × FieldValue} (run : record limit cursor = .ok r next)
    (fields : r.fields = before ++ field :: after) :
    ∃ start place c between, FieldStart limit cursor before start ∧
      skip .separators start = .ok () place ∧ command limit place = .ok c between ∧
      c.nameFor? terminalEscape = some field.1.name ∧ field.1.repetition = c.repetition ∧
      (c.name = terminalEscape ∨ c.name.lettersUpper = true) ∧
      (symbol limit place = .ok (.terminal field.1) between ↔
        c.name ≠ nonterminalEscape ∧ c.name.lettersLower = false) ∧
      (c.name = nonterminalEscape → field.1 = ⟨nonterminalEscape, c.repetition⟩ ∧
        (∀ arg others, c.args = arg :: others →
          nonterminal limit place = .ok ⟨arg.name, c.repetition⟩ between) ∧
        (c.args = [] → symbol limit place
          = .fail ⟨⟨.missingArgument, .escapedName nonterminalEscape⟩, place.offset⟩)) := by
  obtain ⟨start, behind, starts, read⟩ := exists_fieldStart run fields
  obtain ⟨_, place, skipped, read⟩ := bind_eq_ok.1 read
  obtain ⟨key, between, keyed, read⟩ := bind_eq_ok.1 read
  obtain ⟨value, valued, -, read⟩ := bind_eq_ok.1 read
  obtain ⟨_, _, -, last⟩ := bind_eq_ok.1 read
  obtain ⟨rfl, -⟩ := pure_eq_ok.1 last
  obtain ⟨c, here, accepted⟩ := judge_eq_ok.1 keyed
  obtain ⟨name_eq, repetition_eq, letters⟩ := Command.nameFor?_of_toTerminal accepted
  refine ⟨start, place, c, between, starts, skipped, here, name_eq, repetition_eq, letters,
    symbol_eq_terminal_iff here accepted, fun escape => ?_⟩
  have judged := Command.toNonterminal_of_escape escape
  refine ⟨?_, fun arg others args_eq => ?_, fun none => ?_⟩
  · have notTerminal : c.name ≠ terminalEscape := by
      rw [escape]
      decide
    obtain ⟨-, rfl⟩ := (toTerminal_eq_ok_iff notTerminal).1 accepted
    rw [escape]
  · rw [args_eq] at judged
    exact judge_eq_ok.2 ⟨c, here, judged⟩
  · rw [none] at judged
    exact symbol_eq_fail here (judge_of_error here judged) rfl

/-- The key behind one that the nonterminal escape names. -/
theorem record_key_is_symbol_behind_escape :
    let text : Text := "\\\x7b\\X\x7by\x7d \\b, \\K\x7bu8\x7d^? \\c\\\x7d".toList
    let escaped : Terminal × FieldValue := (⟨['X'], none⟩, .nonterminal ⟨['b'], none⟩)
    let field : Terminal × FieldValue := (⟨['u', '8'], some .optional⟩, .nonterminal ⟨['c'], none⟩)
    record nestingLimit (.start text) = .ok ⟨[escaped, field]⟩ ⟨text.length, []⟩ ∧
      ∃ start place between, FieldStart nestingLimit (.start text) [escaped] start ∧
        skip .separators start = .ok () place ∧
        symbol nestingLimit place = .ok (.terminal ⟨['u', '8'], some .optional⟩) between := by
  intro text escaped field
  have run : record nestingLimit (.start text) = .ok ⟨[escaped, field]⟩ ⟨text.length, []⟩ := by
    decide +kernel
  have fields : (Record.mk [escaped, field]).fields = [escaped] ++ field :: [] := rfl
  obtain ⟨start, place, c, between, starts, skipped, -, name_eq, -, letters, asSymbol, -⟩ :=
    record_key_is_symbol_iff run fields
  refine ⟨run, start, place, between, starts, skipped, asSymbol.2 ?_⟩
  -- Its small letter keeps the name from being a command's own.
  rcases letters with escape | upper
  · rw [escape]
    decide
  · by_cases escape : c.name = terminalEscape
    · rw [escape]
      decide
    · rw [Command.nameFor?_of_ne escape, Option.some.injEq] at name_eq
      rw [name_eq] at upper
      exact absurd upper (by decide)

/-- The nonterminal escape is read as a key by its own name, with an argument and without one. -/
theorem record_key_of_nonterminalEscape :
    let key : Terminal := ⟨['X'], none⟩
    let fields : List (Terminal × FieldValue) := [(key, .nonterminal ⟨['b'], none⟩)]
    let named : Text := "\\\x7b\\X\x7by\x7d\\b\\\x7d".toList
    let bare : Text := "\\\x7b\\X \\b\\\x7d".toList
    (record nestingLimit (.start named) = .ok ⟨fields⟩ (.ofOffset named 11) ∧
      symbol nestingLimit (.ofOffset named 2)
        = .ok (.nonterminal ⟨['y'], none⟩) (.ofOffset named 7)) ∧
    record nestingLimit (.start bare) = .ok ⟨fields⟩ (.ofOffset bare 9) ∧
      symbol nestingLimit (.ofOffset bare 2)
        = .fail ⟨⟨.missingArgument, .escapedName nonterminalEscape⟩, 2⟩ := by
  decide +kernel

end Parser

end MathGrammar
