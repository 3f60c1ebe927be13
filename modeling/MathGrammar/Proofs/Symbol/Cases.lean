import MathGrammar.Production.Parser
import MathGrammar.Proofs.Symbol.ReadBack

/-! # Cases are read back

The symbols of a readable case are read back one after another, up to a bar or a line break. Each is
written with a space behind it, so that only an arrow could look at the symbols that follow. -/

namespace MathGrammar

open Spacing

/-- The symbols as they are written, each with a space behind it. -/
def Symbol.spaced (symbols : List Symbol) : Text := symbols.flatMap fun s => s.render ++ [' ']

/-- The first symbol is written in front of a space and the others. -/
theorem Symbol.spaced_cons (s : Symbol) (symbols : List Symbol) (after : Text) :
    Symbol.spaced (s :: symbols) ++ after
      = s.render ++ ' ' :: (Symbol.spaced symbols ++ after) := by
  simp [Symbol.spaced]

/-- What ends a case: no spacing, and nothing that a symbol starts with. -/
structure CaseEnd (limit : Nat) (after : Text) : Prop where
  /-- It is no spacing on the line. -/
  none : Spacing.inline.tokenLength after = 0
  /-- It is no command. -/
  noCommand : (Parser.command limit).Refuses after
  /-- It opens no record. -/
  noBrace : ¬['\\', '\x7b'] <+: after
  /-- It opens no braced vector. -/
  noBracket : ¬['['] <+: after
  /-- It opens no vector. -/
  noParen : ¬['('] <+: after

/-- A bar ends a case. -/
theorem CaseEnd.bar (limit : Nat) (after : Text) : CaseEnd limit ('|' :: after) where
  none := rfl
  noCommand := Parser.refuses_command_of_head limit (by rintro c ⟨⟩; decide)
  noBrace := by rintro ⟨_, ⟨⟩⟩
  noBracket := by rintro ⟨_, ⟨⟩⟩
  noParen := by rintro ⟨_, ⟨⟩⟩

/-- A line break ends a case, as its second backslash is no name. -/
theorem CaseEnd.lineBreak (limit : Nat) (after : Text) : CaseEnd limit ('\\' :: '\\' :: after) where
  none := rfl
  noCommand := Parser.refuses_command limit (by rintro rest ⟨⟩ c ⟨⟩; decide)
  noBrace := by rintro ⟨_, ⟨⟩⟩
  noBracket := by rintro ⟨_, ⟨⟩⟩
  noParen := by rintro ⟨_, ⟨⟩⟩

variable {limit : Nat} {after : Text}

/-! ### First characters of symbols -/

/-- A symbol starts with no spacing. -/
theorem tokenLength_render {spacing : Spacing} {s : Symbol} (readable : s.readable = true)
    (after : Text) : spacing.tokenLength (s.render ++ ' ' :: after) = 0 := by
  have space : Text.HeadNot Char.isAlphanum (' ' :: after) := by rintro c ⟨⟩; decide
  cases s with
  | record r => rfl
  | bracedVector b => rfl
  | vector v => rfl
  | arrow a =>
      rw [Symbol.readable, Bool.and_eq_true] at readable
      obtain ⟨named, -⟩ := Nonterminal.readable_iff.1 readable.1
      rw [Symbol.render, Arrow.render, Written.arrow, List.append_assoc, List.append_assoc]
      exact tokenLength_written a.source.repetition named (by rintro c ⟨⟩; decide)
  | nonterminal n =>
      obtain ⟨named, -⟩ := Nonterminal.readable_iff.1 readable
      exact tokenLength_written n.repetition named space
  | terminal t =>
      rw [Symbol.readable, Bool.and_eq_true] at readable
      obtain ⟨named, -⟩ := Terminal.readable_iff.1 readable.1
      exact tokenLength_written t.repetition named space

/-- No symbol is written with a parenthesis in front. -/
theorem noParen_render (s : Symbol) (after : Text) : ¬['('] <+: s.render ++ after := by
  cases s <;> rintro ⟨_, ⟨⟩⟩

namespace Parser

/-- A symbol that starts with a nonterminal starts with the name of one. -/
theorem exists_written_of_leadingName? {s : Symbol} {name : Text} (readable : s.readable = true)
    (leading : s.leadingName? = some name) (none : Spacing.inline.tokenLength after = 0) :
    ∃ repetition spaces more,
      s.render ++ ' ' :: after = Written.name name repetition ++ spaces ++ more ∧
        isName name = true ∧ Gap spaces more := by
  cases s with
  | nonterminal n =>
      obtain ⟨named, -⟩ := Nonterminal.readable_iff.1 readable
      obtain rfl := Option.some.inj leading
      exact ⟨n.repetition, [' '], after, by simp [Symbol.render, Nonterminal.render],
        isName_of_isCommandName named, .space none⟩
  | arrow a =>
      rw [Symbol.readable, Bool.and_eq_true] at readable
      obtain ⟨named, -⟩ := Nonterminal.readable_iff.1 readable.1
      obtain rfl := Option.some.inj leading
      refine ⟨a.source.repetition, [' '], ['\\', 't', 'o', ' '] ++ a.target.render ++ ' ' :: after,
        ?_, isName_of_isCommandName named, .space rfl⟩
      simp [Symbol.render, Arrow.render, Written.arrow, Nonterminal.render]
  | vector v =>
      obtain rfl := Option.some.inj leading
      refine ⟨.none, [], '(' :: (v.element.render ++ ')' :: ' ' :: after), ?_, rfl,
        .nothing rfl (by rintro c ⟨⟩; decide)⟩
      simp [Symbol.render, Vector.render, Written.vector, Written.name]
  | record | bracedVector | terminal => simp [Symbol.leadingName?] at leading

/-- A symbol that starts with no nonterminal is refused as one, and as the command of an arrow. -/
theorem refuses_of_leadingName?_eq_none (positive : 0 < limit) {s : Symbol}
    (readable : s.readable = true) (leading : s.leadingName? = none)
    (none : Spacing.inline.tokenLength after = 0) :
    (nonterminal limit).Refuses (s.render ++ ' ' :: after) ∧
      (commandNamed limit .unclassifiable ['t', 'o']).Refuses (s.render ++ ' ' :: after) := by
  cases s with
  | record r =>
      have noCommand : (command limit).Refuses ((Symbol.record r).render ++ ' ' :: after) :=
        refuses_command limit (by rintro rest ⟨⟩ c ⟨⟩; decide)
      exact ⟨noCommand.judge _, noCommand.judge _⟩
  | bracedVector b =>
      have noCommand : (command limit).Refuses ((Symbol.bracedVector b).render ++ ' ' :: after) :=
        refuses_command_of_head limit (by rintro c ⟨⟩; decide)
      exact ⟨noCommand.judge _, noCommand.judge _⟩
  | terminal t =>
      rw [Symbol.readable, Bool.and_eq_true, Bool.not_eq_true'] at readable
      obtain ⟨readable, notLower⟩ := readable
      obtain ⟨named, -⟩ := Terminal.readable_iff.1 readable
      have notTo : t.name ≠ ['t', 'o'] := by
        intro to_eq
        rw [to_eq] at notLower
        exact absurd notLower (by decide)
      have asNonterminal := nonterminal_refuses_terminal positive readable notLower (.space none)
      have asTo : (commandNamed limit .unclassifiable ['t', 'o']).Refuses
          (t.render ++ [' '] ++ after) :=
        named_refuses_written positive (isName_of_isCommandName named) (.space none) notTo rfl
      rw [List.append_assoc] at asNonterminal asTo
      exact ⟨asNonterminal, asTo⟩
  | nonterminal | arrow | vector => simp [Symbol.leadingName?] at leading

/-! ### Symbols in a row -/

/-- Symbols with spaces behind them start with no spacing. -/
theorem tokenLength_spaced {symbols : List Symbol} (readable : symbols.all Symbol.readable = true)
    (ends : CaseEnd limit after) :
    Spacing.inline.tokenLength (Symbol.spaced symbols ++ after) = 0 := by
  cases symbols with
  | nil => exact ends.none
  | cons s symbols =>
      rw [List.all_cons, Bool.and_eq_true] at readable
      rw [Symbol.spaced_cons]
      exact tokenLength_render readable.1 _

/-- Symbols with spaces behind them start with no parenthesis. -/
theorem noParen_spaced {symbols : List Symbol} (ends : CaseEnd limit after) :
    ¬['('] <+: Symbol.spaced symbols ++ after := by
  cases symbols with
  | nil => exact ends.noParen
  | cons s symbols =>
      rw [Symbol.spaced_cons]
      exact noParen_render s _

/-- Symbols of which the first starts with no nonterminal are refused as one. -/
theorem nonterminal_refuses_spaced (positive : 0 < limit) {symbols : List Symbol}
    (readable : symbols.all Symbol.readable = true)
    (leading : ∀ s ∈ symbols.head?, s.leadingName? = none) (ends : CaseEnd limit after) :
    (nonterminal limit).Refuses (Symbol.spaced symbols ++ after) := by
  cases symbols with
  | nil => exact ends.noCommand.judge _
  | cons s symbols =>
      rw [List.all_cons, Bool.and_eq_true] at readable
      have refused := refuses_of_leadingName?_eq_none positive readable.1 (leading s rfl)
        (tokenLength_spaced readable.2 ends)
      rw [Symbol.spaced_cons]
      exact refused.1

/-- The command of an arrow is no rest of one when no nonterminal stands behind it. -/
theorem arrowRest_refuses_to (positive : 0 < limit) {n : Nonterminal} (named : isName n.name = true)
    (to_eq : n.name = ['t', 'o']) {symbols : List Symbol}
    (readable : symbols.all Symbol.readable = true)
    (leading : ∀ s ∈ symbols.head?, s.leadingName? = none) (ends : CaseEnd limit after) :
    (arrowRest limit).Refuses (n.render ++ ' ' :: (Symbol.spaced symbols ++ after)) := by
  have gap : Gap [' '] (Symbol.spaced symbols ++ after) := .space (tokenLength_spaced readable ends)
  have reads : (commandNamed limit .unclassifiable ['t', 'o']).Reads (n.render ++ [' '])
      ⟨n.name, [], [], n.repetition⟩ (Symbol.spaced symbols ++ after) :=
    (reads_written positive n.repetition named gap).judge (if_pos to_eq)
  have refused : (arrowRest limit).Refuses
      (n.render ++ [' '] ++ (Symbol.spaced symbols ++ after)) :=
    reads.bind_refuses (nonterminal_refuses_spaced positive readable leading ends)
  rwa [List.append_assoc] at refused

/-- Symbols that do not continue an arrow are no rest of one. -/
theorem arrowRest_refuses_spaced (positive : 0 < limit) {symbols : List Symbol}
    (readable : symbols.all Symbol.readable = true) (alone : Symbol.continueArrow symbols = false)
    (ends : CaseEnd limit after) :
    (arrowRest limit).Refuses (Symbol.spaced symbols ++ after) := by
  cases symbols with
  | nil => exact arrowRest_refuses_of_command ends.noCommand
  | cons s symbols =>
      rw [List.all_cons, Bool.and_eq_true] at readable
      have none := tokenLength_spaced readable.2 ends
      rw [Symbol.spaced_cons]
      cases leading : s.leadingName? with
      | none => exact (refuses_of_leadingName?_eq_none positive readable.1 leading none).2.bind _
      | some name =>
          by_cases to_eq : name = ['t', 'o']
          · -- Only a nonterminal may be named so, with no nonterminal behind it.
            subst to_eq
            cases s with
            | nonterminal n =>
                obtain ⟨named, -⟩ := Nonterminal.readable_iff.1 readable.1
                have to_eq : n.name = ['t', 'o'] := Option.some.inj leading
                refine arrowRest_refuses_to positive (isName_of_isCommandName named) to_eq
                  readable.2 (fun next mem => ?_) ends
                obtain ⟨others, rfl⟩ := List.head?_eq_some_iff.1 mem
                simpa [Symbol.continueArrow, to_eq] using alone
            | arrow a =>
                have to_eq : a.source.name = ['t', 'o'] := Option.some.inj leading
                simp [Symbol.continueArrow, to_eq] at alone
            | vector | record | bracedVector | terminal => simp [Symbol.leadingName?] at leading
          · obtain ⟨repetition, spaces, more, text_eq, named, gap⟩ :=
              exists_written_of_leadingName? readable.1 leading none
            rw [text_eq]
            exact (named_refuses_written positive named gap to_eq rfl).bind _

/-- What ends a case is no symbol. -/
theorem symbol_refuses (ends : CaseEnd limit after) : (symbol limit).Refuses after := by
  have noNonterminal : (nonterminal limit).Refuses after := ends.noCommand.judge _
  have noVector : (vector limit).Refuses after := (ends.noCommand.judge _).bind _
  refine refuses_firstOf rfl fun p mem => ?_
  simp only [List.mem_cons, List.not_mem_nil, or_false] at mem
  rcases mem with rfl | rfl | rfl | rfl | rfl | rfl
  · exact (record_refuses ends.noBrace).map _
  · exact (noNonterminal.bind _).map _
  · exact (bracedVector_refuses ends.noBracket).map _
  · exact noVector.map _
  · exact noNonterminal.map _
  · exact (ends.noCommand.judge _).map _

/-- The first symbol of a case is read back in front of the others. -/
theorem reads_firstSymbol (positive : 0 < limit) {s : Symbol} {symbols : List Symbol}
    (readable : (s :: symbols).all Symbol.readable = true)
    (apart : Symbol.noneContinueArrow (s :: symbols) = true) (ends : CaseEnd limit after) :
    (symbol limit).Reads (s.render ++ [' ']) s (Symbol.spaced symbols ++ after) := by
  rw [List.all_cons, Bool.and_eq_true] at readable
  refine reads_symbol positive readable.1 (.space (tokenLength_spaced readable.2 ends))
    (noParen_spaced ends) ?_
  rintro n rfl
  rw [Symbol.noneContinueArrow, Bool.and_eq_true, Bool.not_eq_true'] at apart
  exact arrowRest_refuses_spaced positive readable.2 apart.1 ends

/-- Where no arrow goes unnoticed none does behind the first symbol. -/
theorem noneContinueArrow_tail {s : Symbol} {symbols : List Symbol}
    (apart : Symbol.noneContinueArrow (s :: symbols) = true) :
    Symbol.noneContinueArrow symbols = true := by
  cases s with
  | nonterminal n =>
      rw [Symbol.noneContinueArrow, Bool.and_eq_true] at apart
      exact apart.2
  | record | arrow | bracedVector | vector | terminal => exact apart

/-- The symbols of a case are read back, each with the space behind it. -/
theorem reads_symbols (positive : 0 < limit) {symbols : List Symbol}
    (readable : symbols.all Symbol.readable = true)
    (apart : Symbol.noneContinueArrow symbols = true) (ends : CaseEnd limit after) :
    (many (symbol limit)).Reads (Symbol.spaced symbols) symbols after := by
  induction symbols with
  | nil => exact (symbol_refuses ends).many
  | cons s symbols ih =>
      have first := reads_firstSymbol positive readable apart ends
      rw [List.all_cons, Bool.and_eq_true] at readable
      have others := ih readable.2 (noneContinueArrow_tail apart)
      rw [Symbol.spaced, List.flatMap_cons]
      exact first.many (by simp) others

/-- A case is read back. -/
theorem reads_unionCase (positive : 0 < limit) {symbols : List Symbol}
    (readable : Symbol.readableCase symbols = true) (ends : CaseEnd limit after) :
    (unionCase limit).Reads (Symbol.spaced symbols) symbols after := by
  rw [Symbol.readableCase, Bool.and_eq_true, Bool.and_eq_true] at readable
  obtain ⟨⟨nonempty, readable⟩, apart⟩ := readable
  cases symbols with
  | nil => simp at nonempty
  | cons s symbols =>
      have first := reads_firstSymbol positive readable apart ends
      rw [List.all_cons, Bool.and_eq_true] at readable
      rw [Symbol.spaced, List.flatMap_cons]
      exact first.many1 (reads_symbols positive readable.2 (noneContinueArrow_tail apart) ends)

/-! ### Unions -/

/-- The cases behind the first one, each with a bar in front. -/
def otherCases (cases : List (List Symbol)) : Text :=
  cases.flatMap fun symbols => ['|', ' '] ++ Symbol.spaced symbols

/-- The cases behind bars end the case in front of them, and so does the line break. -/
theorem caseEnd_otherCases (cases : List (List Symbol)) :
    CaseEnd limit (otherCases cases ++ ['\\', '\\']) := by
  cases cases with
  | nil => exact .lineBreak limit []
  | cons symbols cases => exact .bar limit _

/-- The separators in front of a bar reach over the line break, but no bar stands behind it. -/
theorem bar_refuses_lineBreak : bar.Refuses ['\\', '\\'] := by
  have reads : (skip .separators).Reads ['\\', '\\'] () [] :=
    reads_skip ((Tokens.cons (.pair (.inr ⟨rfl, rfl⟩) _) (.nil [])).runLength_append rfl)
  exact reads.bind_refuses (refuses_token (by simp))

/-- A readable case has a first symbol, which is no spacing. -/
theorem tokenLength_readableCase {spacing : Spacing} {symbols : List Symbol}
    (readable : Symbol.readableCase symbols = true) (after : Text) :
    spacing.tokenLength (Symbol.spaced symbols ++ after) = 0 := by
  rw [Symbol.readableCase, Bool.and_eq_true, Bool.and_eq_true] at readable
  obtain ⟨⟨nonempty, readable⟩, -⟩ := readable
  cases symbols with
  | nil => simp at nonempty
  | cons s symbols =>
      rw [List.all_cons, Bool.and_eq_true] at readable
      rw [Symbol.spaced_cons]
      exact tokenLength_render readable.1 _

/-- A bar is read back with the space behind it. -/
theorem reads_bar {symbols : List Symbol} (readable : Symbol.readableCase symbols = true)
    (after : Text) : bar.Reads ['|', ' '] () (Symbol.spaced symbols ++ after) := by
  have space : Spacing.separators.Tokens ([' '] ++ []) (Symbol.spaced symbols ++ after) :=
    .cons (.char (by decide) rfl _) (.nil _)
  have noSpace : (skip .separators).Reads [] () (['|', ' '] ++ (Symbol.spaced symbols ++ after)) :=
    reads_skip (runLength_eq_zero rfl)
  exact noSpace.bind
    (reads_token ['|'] (space.runLength_append (tokenLength_readableCase readable after)))

/-- The cases behind bars are read back up to the line break. -/
theorem reads_otherCases (positive : 0 < limit) {cases : List (List Symbol)}
    (readable : cases.all Symbol.readableCase = true) :
    (behindSeparators (unionCase limit) bar).Reads (otherCases cases) cases ['\\', '\\'] := by
  induction cases with
  | nil => exact Refuses.behindSeparators (bar_refuses_lineBreak.bind _)
  | cons symbols cases ih =>
      rw [List.all_cons, Bool.and_eq_true] at readable
      have case := reads_unionCase positive readable.1 (caseEnd_otherCases cases)
      have first : (bar >>= fun _ => unionCase limit).Reads (['|', ' '] ++ Symbol.spaced symbols)
          symbols (otherCases cases ++ ['\\', '\\']) :=
        (reads_bar readable.1 _).bind case
      rw [otherCases, List.flatMap_cons]
      exact first.behindSeparators (List.cons_ne_nil _ _) (ih readable.2)

/-- Cases are read back up to the line break. -/
theorem reads_unionCases (positive : 0 < limit) {symbols : List Symbol}
    {cases : List (List Symbol)} (readable : (symbols :: cases).all Symbol.readableCase = true) :
    (unionCases limit).Reads (Symbol.spaced symbols ++ otherCases cases) (symbols :: cases)
      ['\\', '\\'] := by
  rw [List.all_cons, Bool.and_eq_true] at readable
  exact (reads_unionCase positive readable.1 (caseEnd_otherCases cases)).separated1
    (reads_otherCases positive readable.2)

end Parser

end MathGrammar
