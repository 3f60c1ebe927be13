import MathGrammar.Proofs.Production.ReadBack
import MathGrammar.Proofs.Production.WellFormed
import MathGrammar.Proofs.Symbol.Yields

/-! # Productions survive being written

What is read as a production in a plain text is readable, and so the source that is written for it
is read back as the same production. -/

namespace MathGrammar

open Spacing

variable {limit : Nat} {stop : Text} {cursor next : Cursor} {Pre : Cursor → Prop}

namespace Parser

/-! ### Right-hand sides -/

/-- A case is readable: besides its symbols, no arrow goes unnoticed between them. -/
theorem yields_unionCase (limit : Nat) : (unionCase limit).Yields stop Cursor.Ready
    fun symbols cursor => Symbol.readableCase symbols = true ∧ cursor.Ready := by
  intro cursor next symbols run
  obtain ⟨items, nonempty⟩ := items_of_many1 run
  have symbol : (symbol limit).Yields stop Cursor.Ready _ := yields_symbol limit
  obtain ⟨suffix, post⟩ := symbol.items items
  refine ⟨suffix, fun plain ends ready => ?_⟩
  obtain ⟨readable, readyNext⟩ := post plain ends ready
  have noArrow := noneContinueArrow_of_items items plain ends
  refine ⟨?_, readyNext⟩
  rw [Symbol.readableCase, Bool.and_eq_true, Bool.and_eq_true, List.all_eq_true]
  exact ⟨⟨by simpa using nonempty, readable⟩, noArrow⟩

/-- Behind a bar a symbol may start. -/
theorem yields_bar : bar.Yields stop Pre fun _ cursor => cursor.Ready :=
  (yields_skip .separators).bind fun _ => yields_token ['|'] .separators

/-- Cases are there at least once, are readable, and leave a place where a symbol may start. -/
theorem yields_unionCases (limit : Nat) : (unionCases limit).Yields stop Cursor.Ready
    fun cases cursor => cases ≠ [] ∧ (∀ symbols ∈ cases, Symbol.readableCase symbols = true) ∧
      cursor.Ready :=
  (yields_unionCase limit).separated1 yields_bar (yields_unionCase limit)

/-- Readable cases make a readable right-hand side, a lone record included. -/
theorem readable_ofCases {cases : List (List Symbol)} (nonempty : cases ≠ [])
    (readable : ∀ symbols ∈ cases, Symbol.readableCase symbols = true) :
    (RightHandSide.ofCases cases).readable = true := by
  by_cases union : RightHandSide.isLoneRecord cases = false
  · rw [ofCases_eq_union union, RightHandSide.readable, union, Bool.not_false, Bool.and_true,
      Bool.and_eq_true, List.all_eq_true]
    exact ⟨by simpa using nonempty, readable⟩
  · -- The record is the only symbol of the only case, so it is readable with that case.
    unfold RightHandSide.isLoneRecord at union
    split at union
    · rename_i r
      have case := readable [.record r] List.mem_cons_self
      rw [Symbol.readableCase, Bool.and_eq_true, Bool.and_eq_true, List.all_eq_true] at case
      exact case.1.2 (.record r) List.mem_cons_self
    · exact absurd rfl union

/-- A right-hand side is readable, whether it is made of cases or of a record. -/
theorem yields_rightHandSide (limit : Nat) : (rightHandSide limit).Yields stop Cursor.Ready
    fun rhs cursor => rhs.readable = true ∧ cursor.Ready := by
  refine Yields.firstOf fun p mem => ?_
  simp only [List.mem_cons, List.not_mem_nil, or_false] at mem
  rcases mem with rfl | rfl
  · refine Yields.map fun cursor next cases run => ?_
    obtain ⟨suffix, post⟩ := yields_unionCases limit run
    refine ⟨suffix, fun plain ends ready => ?_⟩
    obtain ⟨nonempty, readable, readyNext⟩ := post plain ends ready
    exact ⟨readable_ofCases nonempty readable, readyNext⟩
  · exact (yields_record limit).map

/-! ### The label and the defined symbols -/

/-- The label of a production is plain, being the name of an argument. -/
theorem yields_productionHead (limit : Nat) : (productionHead limit).Yields stop Pre
    fun label cursor => label.all isLiteralChar = true ∧ cursor.Ready := by
  intro cursor next label run
  obtain ⟨head, read, -⟩ := exists_of_productionHead_eq_ok run
  have command : (command limit).Yields stop Pre _ := yields_command limit
  obtain ⟨suffix, post⟩ := command read
  refine ⟨suffix, fun plain ends pre => ?_⟩
  obtain ⟨-, -, -, ready⟩ := post plain ends pre
  exact ⟨gives_productionHead limit run, ready⟩

/-- A symbol on the left-hand side has the name of a command. -/
theorem yields_definedSymbol (limit : Nat) : (definedSymbol limit).Yields stop Cursor.Ready
    fun n cursor => isCommandName n.name = true ∧ cursor.Ready := by
  refine Yields.map fun cursor next c run => ?_
  obtain ⟨suffix, post⟩ := yields_readyCommand limit run
  refine ⟨suffix, fun plain ends ready => ?_⟩
  obtain ⟨named, -, -, readyNext⟩ := post plain ends ready
  exact ⟨named, readyNext⟩

/-! ### Productions -/

/-- Behind a line break a command may start. -/
theorem yields_lineBreak : lineBreak.Yields stop Pre fun _ cursor => cursor.Ready :=
  (yields_skip .inline).bind fun _ => yields_token ['\\', '\\'] .separators

/-- Behind the sign between the two sides a symbol may start. -/
theorem yields_equalSign (complaint : Complaint) : (equalSign.orElse (complain complaint)).Yields
    stop Pre fun _ cursor => cursor.Ready := by
  intro cursor next value run
  rw [orElse_complain_eq_ok] at run
  exact yields_token _ .separators run

/-- What is read as a production is readable: its label, its symbols and its right-hand side. -/
theorem yields_production (limit : Nat) : (production limit).Yields stop Pre
    fun p _ => p.readable = true := by
  refine (yields_productionHead limit).bind fun label =>
    (yields_definedSymbol limit).many.frame.bind fun lhs =>
      (yields_equalSign _).frame.frame.bind fun _ =>
        (yields_rightHandSide limit).frame.frame.bind fun rhs =>
          yields_lineBreak.frame.frame.frame.bind fun _ => .pure ?_
  rintro cursor ⟨literal, named, readable, -⟩
  rw [Production.readable, Bool.and_eq_true, Bool.and_eq_true, List.all_eq_true (l := lhs)]
  exact ⟨⟨literal, named⟩, readable⟩

/-- What is read as a production under some limit is read back from its source under that limit. -/
theorem run_source_of_run (positive : 0 < limit) {text rest : Text} {p : Production}
    (run : (production limit).run text = .ok (p, rest))
    (noTerminal : Text.hasCommand (text.take (text.length - rest.length)) terminalEscape = false)
    (noNonterminal :
      Text.hasCommand (text.take (text.length - rest.length)) nonterminalEscape = false) :
    (production limit).run p.source = .ok (p, []) := by
  obtain ⟨next, read, rfl⟩ := exists_of_run_eq_ok run
  have yields : (production limit).Yields next.rest (fun _ => True) _ := yields_production limit
  obtain ⟨suffix, post⟩ := yields read
  obtain ⟨taken, text_eq⟩ := suffix
  rw [Cursor.rest_start] at text_eq
  have plain : (Cursor.start text).Plain next.rest := by
    subst text_eq
    rw [List.length_append, Nat.add_sub_cancel, List.take_left] at noTerminal noNonterminal
    exact ⟨taken, rfl, noTerminal, noNonterminal⟩
  exact run_source positive (post plain List.suffix_rfl trivial)

/-- **What is read as a production is read back from its source.** When no command in the part of
the text that is taken up is an escape, the source of the production that was read gives the same
production again, and nothing is left of it. -/
theorem parseProduction_source_of_parseProduction {text rest : Text} {p : Production}
    (run : parseProduction text = .ok (p, rest))
    (noTerminal : Text.hasCommand (text.take (text.length - rest.length)) terminalEscape = false)
    (noNonterminal :
      Text.hasCommand (text.take (text.length - rest.length)) nonterminalEscape = false) :
    parseProduction p.source = .ok (p, []) :=
  run_source_of_run (by decide) run noTerminal noNonterminal

/-- A union with arguments, spacing and a trailing text that its source leaves out. -/
theorem parseProduction_source_of_values :
    let u32 : Nonterminal := ⟨['u', '3', '2'], some .optional⟩
    let text : Text :=
      "\\production\x7bvalues\x7d\\v\\w[n]::=\\T\x7bx\x7d|\\quad\\vec(\\v)".toList
        ++ "\\v\\to\\u32^?\\\\\\quad\\K".toList
    let rest : Text := ['\\', 'K']
    let p : Production := ⟨['v', 'a', 'l', 'u', 'e', 's'], [⟨['v'], none⟩, ⟨['w'], none⟩],
      .union [[.terminal ⟨['T'], none⟩], [.vector ⟨⟨['v'], none⟩⟩, .arrow ⟨⟨['v'], none⟩, u32⟩]]⟩
    parseProduction text = .ok (p, rest) ∧
      Text.hasCommand (text.take (text.length - rest.length)) terminalEscape = false ∧
      Text.hasCommand (text.take (text.length - rest.length)) nonterminalEscape = false ∧
      parseProduction p.source = .ok (p, []) := by
  intro u32 text rest p
  have run : parseProduction text = .ok (p, rest) := by decide +kernel
  have noTerminal :
      Text.hasCommand (text.take (text.length - rest.length)) terminalEscape = false := by
    decide +kernel
  have noNonterminal :
      Text.hasCommand (text.take (text.length - rest.length)) nonterminalEscape = false := by
    decide +kernel
  exact ⟨run, noTerminal, noNonterminal,
    parseProduction_source_of_parseProduction run noTerminal noNonterminal⟩

end Parser

end MathGrammar
