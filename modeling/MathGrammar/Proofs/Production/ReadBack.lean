import MathGrammar.Proofs.Production.Concatenation
import MathGrammar.Proofs.Symbol.Cases

/-! # Productions are read back

The source of a production is the text that an author would write for it, with single spaces. A
readable production is read back from its source. -/

namespace MathGrammar

open Spacing

/-- The production as source text: its label as the argument of its command, the two sides as they
are shown, and a line break. -/
def Production.source (production : Production) : Text :=
  "\\production\x7b".toList ++ production.label ++ "\x7d ".toList
    ++ List.intercalate [' '] (production.lhs.map Nonterminal.render)
    ++ " ::= ".toList ++ production.rhs.render ++ " \\\\".toList

/-! ### Layout -/

/-- The symbols of a case as they are written, with single spaces between them. -/
def caseText (symbols : List Symbol) : Text := List.intercalate [' '] (symbols.map Symbol.render)

/-- A case with a space behind it is its symbols with a space behind each. -/
theorem caseText_append {symbols : List Symbol} (nonempty : symbols ≠ []) :
    caseText symbols ++ [' '] = Symbol.spaced symbols := by
  cases symbols with
  | nil => exact absurd rfl nonempty
  | cons s symbols =>
      rw [caseText, List.map_cons, intercalate_append, ← List.map_cons, List.flatMap_map,
        Symbol.spaced]

/-- A readable case has symbols. -/
theorem ne_nil_of_readableCase {symbols : List Symbol}
    (readable : Symbol.readableCase symbols = true) : symbols ≠ [] := by
  rintro rfl
  exact absurd readable (by decide)

/-- Cases with a space behind them are the first case and then the others with their bars. -/
theorem union_append {symbols : List Symbol} {cases : List (List Symbol)}
    (readable : (symbols :: cases).all Symbol.readableCase = true) :
    (RightHandSide.union (symbols :: cases)).render ++ [' ']
      = Symbol.spaced symbols ++ Parser.otherCases cases := by
  have written : ∀ cases, (RightHandSide.union cases).render
      = List.intercalate [' ', '|', ' '] (cases.map caseText) := by
    intro cases
    rw [RightHandSide.render, Written.union, List.map_map]
    rfl
  induction cases generalizing symbols with
  | nil =>
      rw [List.all_cons, Bool.and_eq_true] at readable
      have case := caseText_append (ne_nil_of_readableCase readable.1)
      rw [written, List.map_singleton, List.intercalate_singleton, case]
      exact (List.append_nil _).symm
  | cons second cases ih =>
      rw [List.all_cons, Bool.and_eq_true] at readable
      have case := caseText_append (ne_nil_of_readableCase readable.1)
      calc (RightHandSide.union (symbols :: second :: cases)).render ++ [' ']
          = (caseText symbols ++ [' ']) ++ (['|', ' ']
              ++ ((RightHandSide.union (second :: cases)).render ++ [' '])) := by
            rw [written, written, List.map_cons, List.map_cons, List.intercalate_cons_cons]
            simp
        _ = Symbol.spaced symbols ++ (['|', ' ']
              ++ (Symbol.spaced second ++ Parser.otherCases cases)) := by
            rw [case, ih readable.2]
        _ = Symbol.spaced symbols ++ Parser.otherCases (second :: cases) := by
            simp [Parser.otherCases]

namespace Parser

variable {limit : Nat} {after : Text}

/-! ### Right-hand sides -/

/-- Cases that are no record alone stay a union. -/
theorem ofCases_eq_union {cases : List (List Symbol)}
    (union : RightHandSide.isLoneRecord cases = false) :
    RightHandSide.ofCases cases = .union cases := by
  unfold RightHandSide.ofCases
  split
  · exact absurd union nofun
  · rfl

/-- A right-hand side is read back through its cases: a record alone is a case with one symbol. -/
theorem reads_rightHandSide (positive : 0 < limit) {rhs : RightHandSide}
    (readable : rhs.readable = true) :
    (rightHandSide limit).Reads (rhs.render ++ [' ']) rhs ['\\', '\\'] := by
  cases rhs with
  | record r =>
      have case : [[Symbol.record r]].all Symbol.readableCase = true := by
        have record : r.readable = true := readable
        simp [Symbol.readableCase, Symbol.readable, Symbol.noneContinueArrow, record]
      have reads := (reads_unionCases positive case).map RightHandSide.ofCases
      have written : Symbol.spaced [.record r] ++ otherCases [] = r.render ++ [' '] := by
        simp [Symbol.spaced, otherCases, Symbol.render]
      rw [written] at reads
      exact reads.firstOf
  | union cases =>
      rw [RightHandSide.readable, Bool.and_eq_true, Bool.and_eq_true] at readable
      obtain ⟨⟨nonempty, readable⟩, union⟩ := readable
      rw [Bool.not_eq_true'] at union
      cases cases with
      | nil => simp at nonempty
      | cons symbols cases =>
          have reads := (reads_unionCases positive readable).map RightHandSide.ofCases
          rw [ofCases_eq_union union, ← union_append readable] at reads
          exact reads.firstOf

/-- A right-hand side starts with no separator. -/
theorem tokenLength_rightHandSide {rhs : RightHandSide} (readable : rhs.readable = true) :
    Spacing.separators.tokenLength (rhs.render ++ [' '] ++ ['\\', '\\']) = 0 := by
  cases rhs with
  | record r => rfl
  | union cases =>
      rw [RightHandSide.readable, Bool.and_eq_true, Bool.and_eq_true] at readable
      obtain ⟨⟨nonempty, readable⟩, -⟩ := readable
      cases cases with
      | nil => simp at nonempty
      | cons symbols cases =>
          rw [union_append readable, List.append_assoc]
          rw [List.all_cons, Bool.and_eq_true] at readable
          exact tokenLength_readableCase readable.1 _

/-! ### Left-hand sides -/

/-- The defined symbols, each with a space behind it. -/
def definedText (lhs : List Nonterminal) : Text := lhs.flatMap fun n => n.render ++ [' ']

/-- The symbols of the left-hand side start with no spacing, and neither does the sign behind
them. -/
theorem tokenLength_definedText {lhs : List Nonterminal}
    (named : lhs.all (fun n => isCommandName n.name) = true) (after : Text) :
    Spacing.inline.tokenLength (definedText lhs ++ ':' :: after) = 0 := by
  cases lhs with
  | nil => rfl
  | cons n lhs =>
      rw [List.all_cons, Bool.and_eq_true] at named
      simp only [definedText, List.flatMap_cons, List.append_assoc]
      exact tokenLength_written n.repetition named.1 (by rintro c ⟨⟩; decide)

/-- The symbols of the left-hand side are read back up to the sign. -/
theorem reads_definedSymbols (positive : 0 < limit) {lhs : List Nonterminal}
    (named : lhs.all (fun n => isCommandName n.name) = true) (after : Text) :
    (many (definedSymbol limit)).Reads (definedText lhs) lhs (':' :: after) := by
  induction lhs with
  | nil =>
      have refused : (command limit).Refuses (':' :: after) :=
        refuses_command_of_head limit (by rintro c ⟨⟩; decide)
      exact (refused.map _).many
  | cons n lhs ih =>
      rw [List.all_cons, Bool.and_eq_true] at named
      have first := (reads_written positive n.repetition (isName_of_isCommandName named.1)
        (.space (tokenLength_definedText named.2 after))).map
          fun read => (⟨read.name, read.repetition⟩ : Nonterminal)
      rw [definedText, List.flatMap_cons]
      exact first.many (by simp [Written.name]) (ih named.2)

/-! ### Productions -/

/-- The command that begins a production of the given label. -/
def headCommand (label : Text) : Command :=
  ⟨['p', 'r', 'o', 'd', 'u', 'c', 't', 'i', 'o', 'n'], [], [.literal label], none⟩

/-- The head of a production is read back with the gap behind it. -/
theorem reads_productionHead (positive : 0 < limit) {label spaces : Text}
    (literal : label.all isLiteralChar = true) (gap : Gap spaces after) :
    (productionHead limit).Reads ((headCommand label).render ++ spaces) label after := by
  have formed : (headCommand label).wellFormed = true := by
    simp [headCommand, Command.wellFormed, Argument.wellFormed, literal]
    decide
  have reads := reads_command formed positive gap.run gap.stops
  exact (reads_commandNamed reads).judge rfl

/-- Without defined symbols two spaces stand behind the label, otherwise one. -/
theorem exists_gap_definedText {lhs : List Nonterminal}
    (named : lhs.all (fun n => isCommandName n.name) = true) (after : Text) :
    ∃ spaces, Gap spaces (definedText lhs ++ ':' :: after) ∧
      [' '] ++ List.intercalate [' '] (lhs.map Nonterminal.render) ++ [' ']
        = spaces ++ definedText lhs := by
  cases lhs with
  | nil =>
      have run : Tokens .inline ([' '] ++ ([' '] ++ [])) (':' :: after) :=
        .cons (.char (by decide) rfl _) (.cons (.char (by decide) rfl _) (.nil _))
      exact ⟨[' ', ' '], ⟨run.runLength_append rfl, by rintro c ⟨⟩; decide⟩, by simp [definedText]⟩
  | cons n lhs =>
      refine ⟨[' '], .space (tokenLength_definedText named after), ?_⟩
      rw [List.map_cons, List.append_assoc, intercalate_append, ← List.map_cons, List.flatMap_map,
        definedText]

/-- The head is written as a command whose argument is the label. -/
theorem render_headCommand (label : Text) : (headCommand label).render
    = ['\\', 'p', 'r', 'o', 'd', 'u', 'c', 't', 'i', 'o', 'n', '\x7b'] ++ label ++ ['\x7d'] := by
  simp [headCommand, Command.render, Command.renderParams, Argument.renderAll, Argument.render]

/-- The source in the pieces in which it is read. -/
theorem source_eq (p : Production) : p.source = (headCommand p.label).render
    ++ ([' '] ++ List.intercalate [' '] (p.lhs.map Nonterminal.render) ++ [' '])
    ++ ([':', ':', '=', ' '] ++ (p.rhs.render ++ [' '] ++ ['\\', '\\'])) := by
  have opening : "\\production\x7b".toList
      = ['\\', 'p', 'r', 'o', 'd', 'u', 'c', 't', 'i', 'o', 'n', '\x7b'] := rfl
  have closing : "\x7d ".toList = ['\x7d', ' '] := rfl
  have sign : " ::= ".toList = [' ', ':', ':', '=', ' '] := rfl
  have lineEnd : " \\\\".toList = [' ', '\\', '\\'] := rfl
  unfold Production.source
  rw [opening, closing, sign, lineEnd, render_headCommand]
  simp only [List.append_assoc, List.cons_append, List.nil_append]

/-- A readable production is read back from its source. -/
theorem reads_source (positive : 0 < limit) {p : Production} (readable : p.readable = true) :
    (production limit).Reads p.source p [] := by
  rw [Production.readable, Bool.and_eq_true, Bool.and_eq_true] at readable
  obtain ⟨⟨literal, named⟩, readable⟩ := readable
  have rhs := reads_rightHandSide positive readable
  have ending : lineBreak.Reads ['\\', '\\'] () [] := reads_lineBreak (.nil _) (.nil _) rfl
  have space : Tokens .separators ([' '] ++ []) (p.rhs.render ++ [' '] ++ ['\\', '\\']) :=
    .cons (.char (by decide) rfl _) (.nil _)
  have sign : equalSign.Reads ([':', ':', '='] ++ [' ']) ()
      (p.rhs.render ++ [' '] ++ ['\\', '\\']) :=
    reads_token _ (space.runLength_append (tokenLength_rightHandSide readable))
  have lhs := reads_definedSymbols positive named
    ([':', '=', ' '] ++ (p.rhs.render ++ [' '] ++ ['\\', '\\']))
  obtain ⟨spaces, gap, spaces_eq⟩ := exists_gap_definedText named
    ([':', '=', ' '] ++ (p.rhs.render ++ [' '] ++ ['\\', '\\']))
  have head := reads_productionHead positive literal gap
  have layout : p.source = ((headCommand p.label).render ++ spaces) ++ (definedText p.lhs
      ++ (([':', ':', '='] ++ [' ']) ++ ((p.rhs.render ++ [' ']) ++ ['\\', '\\']))) := by
    rw [source_eq, spaces_eq]
    simp only [List.append_assoc, List.cons_append, List.nil_append]
  rw [layout]
  exact head.bind_end (lhs.bind_end ((sign.orElse _).bind_end
    (rhs.bind_end (ending.bind_last (.pure _ _)))))

/-- **Readable productions are read back**, whatever the limit, if a command may be open at all. -/
theorem run_source (positive : 0 < limit) {p : Production} (readable : p.readable = true) :
    (production limit).run p.source = .ok (p, []) := by
  have run := reads_source positive readable 0
  rw [List.append_nil] at run
  rw [Parser.run, Cursor.start, run]

end Parser

end MathGrammar
