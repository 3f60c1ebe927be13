import MathGrammar.Proofs.Plain
import MathGrammar.Proofs.Symbol.Names
import MathGrammar.Proofs.Symbol.ReadBack

/-! # Symbols that are read are readable

What is read as a symbol in a plain stretch of text is readable. Every reader leaves spacing behind
it, so that each name is read where no spacing stands; and when a symbol is no arrow or no
nonterminal, that is because these were tried in front of it and failed. -/

namespace MathGrammar

open Spacing

/-- No spacing on the line stands at the place. -/
def Cursor.Ready (cursor : Cursor) : Prop := Spacing.inline.tokenLength cursor.rest = 0

variable {limit : Nat} {stop : Text} {cursor next : Cursor} {Pre : Cursor → Prop}

/-- Skipping spacing of either kind makes ready. -/
theorem Cursor.ready_skip (spacing : Spacing) (cursor : Cursor) : (cursor.skip spacing).Ready := by
  obtain ⟨run, rest, -, -, last, skip_eq⟩ := exists_of_skip spacing cursor
  rw [skip_eq]
  cases spacing with
  | inline => exact last
  | separators => exact tokenLength_inline_of_separators last

namespace Parser

/-! ### Commands -/

/-- A command that is read has a name. -/
theorem isName_of_command {c : Command} (run : command limit cursor = .ok c next) :
    isName c.name = true := by
  obtain ⟨formed, -⟩ := wellFormed_of_command_eq_ok run
  cases c
  rw [Command.wellFormed, Bool.and_eq_true, Bool.and_eq_true] at formed
  exact formed.1.1

/-- A command takes up at least its name, which ends where no letter or digit follows. -/
theorem exists_of_command {c : Command} (run : command limit cursor = .ok c next) :
    ∃ rest : Text, cursor.rest = '\\' :: (c.name ++ rest) ∧ rest.HeadNot Char.isAlphanum ∧
      next.rest <:+ rest ∧ next.Ready := by
  obtain ⟨inner, named, listed, applied, marked, -, name, params, args, repetition, rfl⟩ :=
    exists_of_command_eq_ok run
  have parts : (Simulation.invariant (named.Reaches .inline)).RelatesCommands :=
    Simulation.reaches_relatesCommands
  have reaches := parts.params.holds ⟨[], rfl, rfl, .nil⟩ params
  have reaches := ((parts.command (.inl rfl)).argument parts).many.holds reaches args
  have reaches := parts.repetition.holds reaches repetition
  have skipped : skip .inline marked = .ok () (marked.skip .inline) := rfl
  obtain ⟨taken, taken_eq, -⟩ := parts.inline.holds reaches skipped
  obtain ⟨tail, rest_eq, name_eq, -, rfl⟩ := exists_of_commandName_eq_ok name
  have tail_eq : c.name ++ tail.dropWhile Char.isAlphanum = tail := by
    rw [← name_eq, List.takeWhile_append_dropWhile]
  have outside := List.head?_dropWhile_not Char.isAlphanum tail
  -- The name is the longest run of letters and digits, and the rest of the text stands behind it.
  generalize tail.dropWhile Char.isAlphanum = behind at tail_eq outside
  subst tail_eq
  refine ⟨behind, rest_eq, ?_, ⟨taken, ?_⟩, Cursor.ready_skip _ _⟩
  · intro d head
    rwa [show behind.head? = some d from head] at outside
  · rw [← taken_eq, Cursor.rest_advance, rest_eq, List.drop_succ_cons, List.drop_left]

/-- No command in a plain stretch is an escape. -/
theorem notEscape_of_command {c : Command} (run : command limit cursor = .ok c next)
    (plain : cursor.Plain stop) (ends : stop <:+ next.rest) :
    c.name ≠ terminalEscape ∧ c.name ≠ nonterminalEscape := by
  obtain ⟨rest, rest_eq, head, suffix, -⟩ := exists_of_command run
  obtain ⟨before, before_eq, noTerminal, noNonterminal⟩ := plain
  obtain ⟨behind, rfl⟩ := ends.trans suffix
  have named := isName_of_command run
  -- The stretch holds the whole name, and what follows the name in it is no part of the name.
  have stretch_eq : before = '\\' :: (c.name ++ behind) := by
    rw [rest_eq, ← List.append_assoc, ← List.cons_append] at before_eq
    exact (List.append_cancel_right before_eq).symm
  have headBehind : Text.HeadNot Char.isAlphanum behind := head.of_append
  have taken := takeWhile_append_of_headNot (all_of_isName named) headBehind
  rw [stretch_eq, Text.hasCommand, taken] at noTerminal noNonterminal
  constructor
  · intro escape
    simp [escape] at noTerminal
  · intro escape
    simp [escape] at noNonterminal

/-- What the commands in a plain stretch are like, at any place and where no spacing stands. -/
theorem yields_command (limit : Nat) : (command limit).Yields stop Pre fun c cursor =>
    c.wellFormed = true ∧ c.name ≠ terminalEscape ∧ c.name ≠ nonterminalEscape ∧ cursor.Ready := by
  intro cursor next c run
  obtain ⟨rest, rest_eq, -, suffix, ready⟩ := exists_of_command run
  refine ⟨?_, fun plain ends _ => ?_⟩
  · rw [rest_eq, ← List.cons_append]
    exact suffix.trans (List.suffix_append _ _)
  · obtain ⟨noTerminal, noNonterminal⟩ := notEscape_of_command run plain ends
    exact ⟨(wellFormed_of_command_eq_ok run).1, noTerminal, noNonterminal, ready⟩

/-- Where a command may start, one is read that is neither spacing nor an escape. -/
theorem yields_readyCommand (limit : Nat) :
    (command limit).Yields stop Cursor.Ready fun c cursor => isCommandName c.name = true ∧
      c.name ≠ terminalEscape ∧ c.name ≠ nonterminalEscape ∧ cursor.Ready := by
  intro cursor next c run
  obtain ⟨suffix, any⟩ := yields_command limit run
  refine ⟨suffix, fun plain ends ready => ?_⟩
  obtain ⟨-, noTerminal, noNonterminal, readyNext⟩ := any plain ends ready
  obtain ⟨rest, rest_eq, head, -, -⟩ := exists_of_command run
  rw [Cursor.Ready, rest_eq] at ready
  exact ⟨isCommandName_of_tokenLength_eq_zero (isName_of_command run) head ready, noTerminal,
    noNonterminal, readyNext⟩

/-- Behind a command of a given name another one may start. -/
theorem yields_commandNamed (limit : Nat) (kind : FaultKind) (name : Text) :
    (commandNamed limit kind name).Yields stop Pre fun _ cursor => cursor.Ready := by
  refine (yields_command limit).judge fun c result cursor _ => ?_
  rintro ⟨-, -, -, ready⟩
  exact ready

/-! ### Signs and spacing -/

/-- Behind skipped spacing a command may start. -/
theorem yields_skip (spacing : Spacing) :
    (skip spacing).Yields stop Pre fun _ cursor => cursor.Ready := by
  intro cursor next value run
  obtain ⟨-, rfl⟩ := Outcome.ok.inj run
  exact ⟨List.drop_suffix _ _, fun _ _ _ => cursor.ready_skip spacing⟩

/-- A sign yields nothing besides what it takes up. -/
theorem yields_literal (characters : Text) :
    (literal characters).Yields stop Pre fun _ _ => True := by
  intro cursor next value run
  unfold literal at run
  split at run
  · obtain ⟨-, rfl⟩ := Outcome.ok.inj run
    exact ⟨List.drop_suffix _ _, fun _ _ _ => trivial⟩
  · simp at run

/-- Behind a sign with spacing a command may start. -/
theorem yields_token (characters : Text) (spacing : Spacing) :
    (token characters spacing).Yields stop Pre fun _ cursor => cursor.Ready :=
  (yields_literal characters).bind fun _ => yields_skip spacing

/-! ### Terminals and nonterminals -/

/-- Apart from the escape, a command is a nonterminal by the case of its letters. -/
theorem toNonterminal_eq_ok_iff {c : Command} (notEscape : c.name ≠ nonterminalEscape)
    {n : Nonterminal} : c.toNonterminal = .ok n ↔
      c.name ∉ structuralNames ∧ c.name.lettersLower = true ∧ ⟨c.name, c.repetition⟩ = n := by
  rw [Command.toNonterminal]
  split
  · rename_i structural
    simp only [List.contains_eq_mem, decide_eq_true_eq] at structural
    simp [structural]
  · rename_i ordinary
    simp only [List.contains_eq_mem, decide_eq_true_eq] at ordinary
    rw [Command.nonterminalName, if_neg notEscape]
    by_cases lower : c.name.lettersLower = true
    · simp [lower, ordinary, Except.bind]
    · simp [lower, Except.bind]

/-- A command that is no escape names a terminal when it is upper-case. -/
theorem toTerminal_eq_ok_iff {c : Command} (notEscape : c.name ≠ terminalEscape) {t : Terminal} :
    c.toTerminal = .ok t ↔ c.name.lettersUpper = true ∧ ⟨c.name, c.repetition⟩ = t := by
  rw [Command.toTerminal, Command.terminalName, if_neg notEscape]
  by_cases upper : c.name.lettersUpper = true
  · simp [upper, Except.bind]
  · simp [upper, Except.bind]

/-- A nonterminal that is read is readable. -/
theorem yields_nonterminal (limit : Nat) : (nonterminal limit).Yields stop Cursor.Ready
    fun n cursor => n.readable = true ∧ cursor.Ready := by
  refine (yields_readyCommand limit).judge fun c n cursor accepted => ?_
  rintro ⟨named, -, notEscape, ready⟩
  obtain ⟨ordinary, lower, rfl⟩ := (toNonterminal_eq_ok_iff notEscape).1 accepted
  exact ⟨Nonterminal.readable_iff.2 ⟨named, lower, ordinary⟩, ready⟩

/-- A terminal that is read is readable. -/
theorem yields_terminal (limit : Nat) : (terminal limit).Yields stop Cursor.Ready
    fun t cursor => t.readable = true ∧ cursor.Ready := by
  refine (yields_readyCommand limit).judge fun c t cursor accepted => ?_
  rintro ⟨named, noTerminal, noNonterminal, ready⟩
  obtain ⟨upper, rfl⟩ := (toTerminal_eq_ok_iff noTerminal).1 accepted
  exact ⟨Terminal.readable_iff.2 ⟨named, upper, noTerminal, noNonterminal⟩, ready⟩

/-! ### Shapes -/

/-- The element of a vector that is read is readable. -/
theorem yields_vector (limit : Nat) : (vector limit).Yields stop Pre
    fun v cursor => v.element.readable = true ∧ cursor.Ready :=
  (yields_commandNamed limit _ _).bind fun _ => (yields_token ['('] .inline).bind fun _ =>
    (yields_nonterminal limit).bind fun _ => (yields_token [')'] .inline).frame.bind fun _ =>
      .pure fun _ post => post

/-- The element of a vector in brackets that is read is readable. -/
theorem yields_bracedVector (limit : Nat) : (bracedVector limit).Yields stop Pre
    fun b cursor => b.vector.element.readable = true ∧ cursor.Ready :=
  (yields_token ['['] .inline).bind fun _ => (yields_vector limit).bind fun _ =>
    (yields_token [']'] .inline).frame.bind fun _ => .pure fun _ post => post

/-- The two sides of an arrow that is read are readable. -/
theorem yields_arrow (limit : Nat) : (arrow limit).Yields stop Cursor.Ready
    fun a cursor => a.source.readable = true ∧ a.target.readable = true ∧ cursor.Ready :=
  (yields_nonterminal limit).bind fun _ => (yields_commandNamed limit _ _).frame.bind fun _ =>
    (yields_nonterminal limit).frame.bind fun _ => .pure fun _ post => post

/-- The value of a field that is read is readable. -/
theorem yields_fieldValue (limit : Nat) : (fieldValue limit).Yields stop Cursor.Ready
    fun value cursor => value.readable = true ∧ cursor.Ready := by
  refine Yields.firstOf fun p mem => ?_
  simp only [List.mem_cons, List.not_mem_nil, or_false] at mem
  rcases mem with rfl | rfl
  · exact (yields_vector limit).map
  · exact (yields_nonterminal limit).map

/-- The key and the value of a field that is read are readable. -/
theorem yields_recordField (limit : Nat) : (recordField limit).Yields stop Pre fun field cursor =>
    (field.1.readable = true ∧ field.2.readable = true) ∧ cursor.Ready :=
  (yields_skip .separators).bind fun _ => (yields_terminal limit).bind fun _ =>
    (yields_fieldValue limit).frame.bind fun _ =>
    (yields_skip .separators).frame.frame.bind fun _ =>
      .pure fun _ ⟨key, value, ready⟩ => ⟨⟨key, value⟩, ready⟩

/-- A record that is read is readable. -/
theorem yields_record (limit : Nat) : (record limit).Yields stop Pre
    fun r cursor => r.readable = true ∧ cursor.Ready := by
  refine (yields_token _ .inline).bind fun _ => ((yields_recordField limit).separated1
    (yields_literal [',']) (yields_recordField limit)).bind fun fields =>
      (yields_token _ .inline).frame.frame.bind fun _ => .pure ?_
  rintro cursor ⟨nonempty, readable, ready⟩
  refine ⟨?_, ready⟩
  rw [Record.readable, Bool.and_eq_true, List.all_eq_true]
  refine ⟨by simpa using nonempty, fun field mem => ?_⟩
  exact Bool.and_eq_true_iff.2 (readable field mem)

/-! ### Symbols -/

/-- How a symbol was read: by the reader of its shape, where a nonterminal is no arrow and a
terminal is no nonterminal. -/
inductive SymbolRun (limit : Nat) (cursor next : Cursor) : Symbol → Prop where
  /-- A record. -/
  | record {r : Record} (run : record limit cursor = .ok r next) :
      SymbolRun limit cursor next (.record r)
  /-- An arrow. -/
  | arrow {a : Arrow} (run : arrow limit cursor = .ok a next) :
      SymbolRun limit cursor next (.arrow a)
  /-- A braced vector. -/
  | bracedVector {b : BracedVector} (run : bracedVector limit cursor = .ok b next) :
    SymbolRun limit cursor next (.bracedVector b)
  /-- A vector. -/
  | vector {v : Vector} (run : vector limit cursor = .ok v next) :
      SymbolRun limit cursor next (.vector v)
  /-- A nonterminal. -/
  | nonterminal {n : Nonterminal} {fault : Fault} (noArrow : arrow limit cursor = .fail fault)
    (run : nonterminal limit cursor = .ok n next) : SymbolRun limit cursor next (.nonterminal n)
  /-- A terminal. -/
  | terminal {t : Terminal} {fault : Fault}
    (noNonterminal : Parser.nonterminal limit cursor = .fail fault)
    (run : terminal limit cursor = .ok t next) : SymbolRun limit cursor next (.terminal t)

/-- A fault behind a value that is turned into another is that of the reader. -/
theorem fail_of_map_eq_fail {α β : Type} {p : Parser α} {f : α → β} {fault : Fault}
    (failed : p.map f cursor = .fail fault) : p cursor = .fail fault := by
  unfold map at failed
  cases run : p cursor with
  | ok value next => simp [run] at failed
  | fail fault' => simpa [run] using failed
  | tooDeep => simp [run] at failed

/-- A symbol is read in one of these ways. -/
theorem symbolRun_of_symbol {s : Symbol} (run : symbol limit cursor = .ok s next) :
    SymbolRun limit cursor next s := by
  rcases orElse_eq_ok.1 run with read | ⟨-, run⟩
  · obtain ⟨r, shape, rfl⟩ := map_eq_ok.1 read
    exact .record shape
  rcases orElse_eq_ok.1 run with read | ⟨⟨fault, noArrow, -⟩, run⟩
  · obtain ⟨a, shape, rfl⟩ := map_eq_ok.1 read
    exact .arrow shape
  rcases orElse_eq_ok.1 run with read | ⟨-, run⟩
  · obtain ⟨b, shape, rfl⟩ := map_eq_ok.1 read
    exact .bracedVector shape
  rcases orElse_eq_ok.1 run with read | ⟨-, run⟩
  · obtain ⟨v, shape, rfl⟩ := map_eq_ok.1 read
    exact .vector shape
  rcases orElse_eq_ok.1 run with read | ⟨⟨fault, noNonterminal, -⟩, run⟩
  · obtain ⟨n, shape, rfl⟩ := map_eq_ok.1 read
    exact .nonterminal (fail_of_map_eq_fail noArrow) shape
  rcases orElse_eq_ok.1 run with read | ⟨-, run⟩
  · obtain ⟨t, shape, rfl⟩ := map_eq_ok.1 read
    exact .terminal (fail_of_map_eq_fail noNonterminal) shape
  · exact absurd run (complain_ne_ok _ _)

/-- A terminal that is read where no nonterminal is has a letter. -/
theorem not_lettersLower_of_terminal {t : Terminal} {fault : Fault}
    (noNonterminal : nonterminal limit cursor = .fail fault)
    (run : terminal limit cursor = .ok t next) (plain : cursor.Plain stop)
    (ends : stop <:+ next.rest) : t.name.lettersLower = false := by
  obtain ⟨c, read, accepted⟩ := judge_eq_ok.1 run
  obtain ⟨noTerminal, notEscape⟩ := notEscape_of_command read plain ends
  have ordinary := Command.not_structural_of_toTerminal accepted
  obtain ⟨-, rfl⟩ := (toTerminal_eq_ok_iff noTerminal).1 accepted
  rw [← Bool.not_eq_true]
  intro lower
  have asNonterminal : nonterminal limit cursor = .ok ⟨c.name, c.repetition⟩ next :=
    judge_eq_ok.2 ⟨c, read, (toNonterminal_eq_ok_iff notEscape).2 ⟨ordinary, lower, rfl⟩⟩
  exact absurd (noNonterminal.symm.trans asNonterminal) nofun

/-- A symbol that is read is readable, whatever its shape. -/
theorem yields_symbol (limit : Nat) : (symbol limit).Yields stop Cursor.Ready
    fun s cursor => s.readable = true ∧ cursor.Ready := by
  intro cursor next s run
  cases symbolRun_of_symbol run with
  | record shape => exact yields_record limit shape
  | bracedVector shape => exact yields_bracedVector limit shape
  | vector shape => exact yields_vector limit shape
  | nonterminal _ shape => exact yields_nonterminal limit shape
  | arrow shape =>
      obtain ⟨suffix, post⟩ := yields_arrow limit shape
      refine ⟨suffix, fun plain ends ready => ?_⟩
      obtain ⟨source, target, readyNext⟩ := post plain ends ready
      exact ⟨Bool.and_eq_true_iff.2 ⟨source, target⟩, readyNext⟩
  | terminal noNonterminal shape =>
      obtain ⟨suffix, post⟩ := yields_terminal limit shape
      refine ⟨suffix, fun plain ends ready => ?_⟩
      obtain ⟨readable, readyNext⟩ := post plain ends ready
      have notLower := not_lettersLower_of_terminal noNonterminal shape plain ends
      refine ⟨?_, readyNext⟩
      rw [Symbol.readable, readable, notLower]
      rfl

/-! ### Arrows among the symbols -/

/-- A nonterminal named like the command of an arrow is that command. -/
theorem exists_commandNamed_of_nonterminal {n : Nonterminal}
    (run : nonterminal limit cursor = .ok n next) (plain : cursor.Plain stop)
    (ends : stop <:+ next.rest) (name_eq : n.name = ['t', 'o']) :
    ∃ c, commandNamed limit .unclassifiable ['t', 'o'] cursor = .ok c next := by
  obtain ⟨c, read, accepted⟩ := judge_eq_ok.1 run
  obtain ⟨-, notEscape⟩ := notEscape_of_command read plain ends
  obtain ⟨-, -, rfl⟩ := (toNonterminal_eq_ok_iff notEscape).1 accepted
  exact ⟨c, commandNamed_eq_ok_iff.2 ⟨read, name_eq⟩⟩

/-- A command of a name that a nonterminal may have is a nonterminal. -/
theorem exists_nonterminal_of_commandNamed {kind : FaultKind} {name : Text} {c : Command}
    (run : commandNamed limit kind name cursor = .ok c next) (lower : name.lettersLower = true)
    (ordinary : name ∉ structuralNames) :
    ∃ n, nonterminal limit cursor = .ok n next := by
  obtain ⟨read, rfl⟩ := commandNamed_eq_ok_iff.1 run
  have notEscape : c.name ≠ nonterminalEscape := by
    intro escape
    rw [escape] at lower
    exact absurd lower (by decide)
  exact ⟨_, judge_eq_ok.2 ⟨c, read,
    (toNonterminal_eq_ok_iff notEscape).2 ⟨ordinary, lower, rfl⟩⟩⟩

/-- What starts with a nonterminal can be read as one. -/
theorem exists_nonterminal_of_leadingName? {s : Symbol} {name : Text}
    (run : symbol limit cursor = .ok s next) (leading : s.leadingName? = some name) :
    ∃ n between, nonterminal limit cursor = .ok n between := by
  cases symbolRun_of_symbol run with
  | nonterminal _ shape => exact ⟨_, _, shape⟩
  | arrow shape =>
      obtain ⟨source, between, read, -⟩ := bind_eq_ok.1 shape
      exact ⟨source, between, read⟩
  | vector shape =>
      obtain ⟨c, between, read, -⟩ := bind_eq_ok.1 shape
      obtain ⟨n, read⟩ := exists_nonterminal_of_commandNamed read (by decide) (by decide)
      exact ⟨n, between, read⟩
  | record | bracedVector | terminal => exact absurd leading nofun

/-- Symbols leave a part of the text at its end. -/
theorem suffix_of_symbols {symbols : List Symbol}
    (items : Items (symbol limit) cursor symbols next) : next.rest <:+ cursor.rest := by
  have yields : (symbol limit).Yields [] Cursor.Ready _ := yields_symbol limit
  exact (yields.items items).1

/-- Symbols that continue an arrow can be read as the rest of one. -/
theorem exists_arrowRest_of_items {symbols : List Symbol}
    (items : Items (symbol limit) cursor symbols next) (plain : cursor.Plain stop)
    (ends : stop <:+ next.rest) (continues : Symbol.continueArrow symbols = true) :
    ∃ n last, arrowRest limit cursor = .ok n last := by
  cases items with
  | nil => exact absurd continues nofun
  | @cons _ between _ s symbols first others =>
      have endsBetween := ends.trans (suffix_of_symbols others)
      cases s with
      | nonterminal n =>
          cases others with
          | nil => exact absurd continues nofun
          | cons second others =>
              rw [Symbol.continueArrow, Bool.and_eq_true, beq_iff_eq, Option.isSome_iff_exists]
                at continues
              obtain ⟨name_eq, name, leading⟩ := continues
              cases symbolRun_of_symbol first with
              | nonterminal _ shape =>
                  obtain ⟨c, named⟩ :=
                    exists_commandNamed_of_nonterminal shape plain endsBetween name_eq
                  obtain ⟨target, last, read⟩ := exists_nonterminal_of_leadingName? second leading
                  exact ⟨target, last, bind_eq_ok.2 ⟨c, between, named, read⟩⟩
      | arrow a =>
          cases symbolRun_of_symbol first with
          | arrow shape =>
              obtain ⟨source, middle, read, rest⟩ := bind_eq_ok.1 shape
              obtain ⟨c, behind, named, rest⟩ := bind_eq_ok.1 rest
              obtain ⟨target, last, readTarget, rest⟩ := bind_eq_ok.1 rest
              obtain ⟨rfl, rfl⟩ := pure_eq_ok.1 rest
              have yieldsNamed : (commandNamed limit .unclassifiable ['t', 'o']).Yields stop
                  Cursor.Ready _ := yields_commandNamed limit _ _
              have yieldsTarget : (nonterminal limit).Yields stop Cursor.Ready _ :=
                yields_nonterminal limit
              have endsMiddle :=
                endsBetween.trans ((yieldsTarget readTarget).1.trans (yieldsNamed named).1)
              -- The source is the command of an arrow, and the command behind it a nonterminal.
              obtain ⟨c', named'⟩ := exists_commandNamed_of_nonterminal read plain endsMiddle
                (beq_iff_eq.1 continues)
              obtain ⟨n, read'⟩ :=
                exists_nonterminal_of_commandNamed named (by decide) (by decide)
              exact ⟨n, behind, bind_eq_ok.2 ⟨c', middle, named', read'⟩⟩
      | record | bracedVector | vector | terminal => exact absurd continues nofun

/-- No nonterminal that is read as a symbol is followed by the rest of an arrow. -/
theorem noneContinueArrow_of_items {symbols : List Symbol}
    (items : Items (symbol limit) cursor symbols next) (plain : cursor.Plain stop)
    (ends : stop <:+ next.rest) : Symbol.noneContinueArrow symbols = true := by
  induction items with
  | nil => rfl
  | @cons cursor between next s symbols first others ih =>
      have yields : (symbol limit).Yields stop Cursor.Ready _ := yields_symbol limit
      have plainBetween :=
        plain.of_suffix (yields first).1 (ends.trans (suffix_of_symbols others))
      cases s with
      | nonterminal n =>
          rw [Symbol.noneContinueArrow, Bool.and_eq_true, Bool.not_eq_true', ← Bool.not_eq_true]
          refine ⟨fun continues => ?_, ih plainBetween ends⟩
          cases symbolRun_of_symbol first with
          | nonterminal noArrow shape =>
              -- An arrow was tried in front of the nonterminal, and it would have been read.
              obtain ⟨target, last, rest⟩ :=
                exists_arrowRest_of_items others plainBetween ends continues
              have arrow : arrow limit cursor = .ok ⟨n, target⟩ last := by
                rw [arrow_eq]
                exact bind_eq_ok.2 ⟨n, between, shape, map_eq_ok.2 ⟨target, rest, rfl⟩⟩
              exact absurd (noArrow.symm.trans arrow) nofun
      | record | arrow | bracedVector | vector | terminal => exact ih plainBetween ends

end Parser

end MathGrammar
