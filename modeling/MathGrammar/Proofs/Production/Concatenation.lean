import MathGrammar.Proofs.Extension
import MathGrammar.WholeText

/-! # Blocks are concatenations

A text that is a production by itself is read as the same production in front of another one, or of
the command that closes a block. A block of such texts therefore holds exactly their productions. -/

namespace MathGrammar

open Spacing

variable {limit : Nat} {text more : Text} {cursor next : Cursor}

namespace Parser

/-! ### The line break at the end -/

/-- A line break is read with the spacing in front of it and the separators behind it. -/
theorem exists_of_lineBreak_eq_ok (run : lineBreak cursor = .ok () next) :
    ∃ spaces separators, cursor.rest = spaces ++ '\\' :: '\\' :: (separators ++ next.rest) ∧
      Tokens .inline spaces ('\\' :: '\\' :: (separators ++ next.rest)) ∧
      Tokens .separators separators next.rest := by
  obtain ⟨_, between, skipped, run⟩ := bind_eq_ok.1 run
  obtain ⟨spaces, rest, rest_eq, inline, -, skip_eq⟩ := exists_of_skip .inline cursor
  obtain ⟨-, rfl⟩ := Outcome.ok.inj skipped
  obtain ⟨_, behind, signed, run⟩ := bind_eq_ok.1 run
  obtain ⟨-, rfl⟩ := Outcome.ok.inj run
  have text_eq := exists_of_literal_eq_ok signed
  obtain ⟨separators, last, behind_eq, tokens, -, skip_eq'⟩ := exists_of_skip .separators behind
  rw [skip_eq, behind_eq] at text_eq
  obtain rfl : rest = '\\' :: '\\' :: (separators ++ last) := text_eq
  rw [skip_eq']
  exact ⟨spaces, separators, rest_eq, inline, tokens⟩

/-- A line break is read with all spacing in front of it and all separators behind it. -/
theorem reads_lineBreak {spaces separators : Text}
    (inline : Tokens .inline spaces ('\\' :: '\\' :: (separators ++ more)))
    (tokens : Tokens .separators separators more)
    (last : Spacing.separators.tokenLength more = 0) :
    lineBreak.Reads (spaces ++ '\\' :: '\\' :: separators) () more :=
  (reads_skip (inline.runLength_append rfl)).bind
    (reads_token ['\\', '\\'] (tokens.runLength_append last))

/-! ### One production -/

/-- A production starts with the command for one. -/
theorem exists_of_productionHead_eq_ok {label : Text}
    (run : productionHead limit cursor = .ok label next) :
    ∃ head : Command, command limit cursor = .ok head next ∧
      head.name = ['p', 'r', 'o', 'd', 'u', 'c', 't', 'i', 'o', 'n'] := by
  obtain ⟨head, run, -⟩ := judge_eq_ok.1 run
  exact ⟨head, commandNamed_eq_ok_iff.1 run⟩

/-- **A production is read alike in front of what continues a block.** A text that is a production
by itself ends with its line break, so nothing in it looks at the text behind; and the two together
go on like a block once more. -/
theorem reads_production_of_run {read : Production}
    (run : production limit (.start text) = .ok read next) (ends : next.rest = [])
    (goesOn : GoesOn limit more) :
    (production limit).Reads text read more ∧ GoesOn limit (text ++ more) := by
  obtain ⟨label, headed, head, run⟩ := bind_eq_ok.1 run
  obtain ⟨lhs, defined, symbols, run⟩ := bind_eq_ok.1 run
  obtain ⟨_, signed, sign, run⟩ := bind_eq_ok.1 run
  obtain ⟨rhs, cased, cases, run⟩ := bind_eq_ok.1 run
  obtain ⟨_, last, lineBroken, run⟩ := bind_eq_ok.1 run
  obtain ⟨rfl, rfl⟩ := pure_eq_ok.1 run
  -- The text is what is taken up over units before the line break, and is closed by it.
  have blocks := Simulation.reaches_relatesBlocks (Cursor.start text) limit
  have reachesHead := blocks.productionHead.holds ⟨[], rfl, rfl, .nil⟩ head
  have reachesSymbols := blocks.definedSymbol.many.holds reachesHead symbols
  have reachesSign := (blocks.equalSign.orElse (.complain _)).holds reachesSymbols sign
  obtain ⟨taken, text_eq, offset_eq, units⟩ := blocks.symbols.rightHandSide.holds reachesSign cases
  obtain ⟨spaces, separators, cased_eq, inline, tokens⟩ := exists_of_lineBreak_eq_ok lineBroken
  rw [ends, List.append_nil] at cased_eq inline
  rw [ends] at tokens
  have closedCased : Closed cased.rest := by
    rw [cased_eq]
    exact .append (.of_tokens inline) (.lineBreak tokens)
  have closed : Closed text := by
    rw [show text = taken ++ cased.rest from text_eq]
    exact .append units closedCased
  have noLetter := goesOn.startsWithLetter_eq_false
  constructor
  · intro offset
    -- Up to the sign between the two sides only commands are read; behind it also symbols.
    have command : (Simulation.extension offset more Closed).Related (command limit)
        (command limit) := (Simulation.closed_relatesCommands goesOn).command (.inl rfl)
    have within : (Simulation.extension offset more Within).RelatesSymbols limit limit :=
      Simulation.within_relatesSymbols goesOn
    have equalSign : (Simulation.extension offset more Within).Related equalSign equalSign :=
      (Simulation.within_related_sign goesOn List.mem_cons_self).bind fun _ =>
        Simulation.within_related_skip goesOn _
    obtain ⟨closedHead, head'⟩ :=
      Simulation.extension_ok ((command.commandNamed _ _).judge _) closed head
    obtain ⟨closedSymbols, symbols'⟩ :=
      Simulation.extension_ok (command.map _).many closedHead symbols
    obtain ⟨withinSign, sign'⟩ :=
      Simulation.extension_ok (equalSign.orElse (.complain _)) (.inl closedSymbols) sign
    obtain ⟨-, cases'⟩ := Simulation.extension_ok within.rightHandSide withinSign cases
    have lineBroken' : lineBreak ⟨cased.offset + offset, cased.rest ++ more⟩
        = .ok () ⟨offset + text.length, more⟩ := by
      rw [cased_eq] at closedCased
      obtain ⟨-, inline', -⟩ :=
        closedCased.run_append inline rfl (goesOn.tokenLength_eq_zero _) noLetter
      have reads := reads_lineBreak inline' (tokens.of_nil noLetter) (goesOn.tokenLength_eq_zero _)
        (cased.offset + offset)
      rw [← cased_eq] at reads
      have length_eq := congrArg List.length text_eq
      rw [Cursor.rest_start, List.length_append] at length_eq
      rw [reads, offset_eq, length_eq, Cursor.offset_start]
      congr 2
      omega
    rw [Cursor.offset_start, Nat.zero_add, Cursor.rest_start] at head'
    exact bind_eq_ok.2 ⟨_, _, head', bind_eq_ok.2 ⟨_, _, symbols', bind_eq_ok.2 ⟨_, _, sign',
      bind_eq_ok.2 ⟨_, _, cases', bind_eq_ok.2 ⟨_, _, lineBroken', rfl⟩⟩⟩⟩⟩
  · intro offset
    obtain ⟨first, read, name_eq⟩ := exists_of_productionHead_eq_ok head
    have command : (Simulation.extension offset more Closed).Related (command limit)
        (command limit) := (Simulation.closed_relatesCommands goesOn).command (.inl rfl)
    obtain ⟨-, read'⟩ := Simulation.extension_ok command closed read
    rw [Cursor.offset_start, Nat.zero_add, Cursor.rest_start] at read'
    exact ⟨first, _, read', by simp [name_eq, structuralNames]⟩

/-! ### Productions in a row -/

/-- Texts that are productions by themselves are read one after another, up to a structural command
that begins none. -/
theorem reads_productions {items : List (Text × Production)}
    (each : ∀ item ∈ items, ∃ next, production limit (.start item.1) = .ok item.2 next ∧
      next.rest = [])
    (goesOn : GoesOn limit more) (refused : (production limit).Refuses more) :
    (many (production limit)).Reads (items.map Prod.fst).flatten (items.map Prod.snd) more ∧
      GoesOn limit ((items.map Prod.fst).flatten ++ more) := by
  -- From the last production back: each is read in front of all those behind it.
  induction items with
  | nil => exact ⟨refused.many, goesOn⟩
  | cons item items ih =>
      obtain ⟨others, goesOnOthers⟩ := ih fun other mem => each other (List.mem_cons_of_mem _ mem)
      obtain ⟨next, run, ends⟩ := each item List.mem_cons_self
      obtain ⟨first, goesOnAll⟩ := reads_production_of_run run ends goesOnOthers
      have nonempty : item.1 ≠ [] := by
        intro nil_eq
        obtain ⟨label, headed, head, -⟩ := bind_eq_ok.1 run
        have refused : (command limit).Refuses [] := refuses_command_of_head limit nofun
        obtain ⟨fault, failed, -⟩ := (refused.judge _).judge _ 0
        rw [nil_eq] at head
        exact absurd (head.symm.trans failed) nofun
      rw [List.map_cons, List.map_cons, List.flatten_cons, List.append_assoc]
      exact ⟨first.many nonempty others, goesOnAll⟩

/-! ### Blocks -/

/-- The command that opens a block. -/
def blockOpening : Command :=
  ⟨['b', 'e', 'g', 'i', 'n'], [], [.literal ['a', 'r', 'r', 'a', 'y']], none⟩

/-- The command that closes a block. -/
def blockClosing : Command := ⟨['e', 'n', 'd'], [], [.literal ['a', 'r', 'r', 'a', 'y']], none⟩

/-- The command that closes a block is read at the end of a text. -/
theorem reads_blockClosing (positive : 0 < limit) :
    (command limit).Reads blockClosing.render blockClosing [] := by
  have reads : (command limit).Reads (blockClosing.render ++ []) blockClosing [] :=
    reads_command rfl positive (runLength_eq_zero rfl) nofun
  rwa [List.append_nil] at reads

/-- The closing command begins no production. -/
theorem production_refuses_blockClosing (positive : 0 < limit) :
    (production limit).Refuses blockClosing.render := by
  have other : (commandNamed limit .unexpectedToken
      ['p', 'r', 'o', 'd', 'u', 'c', 't', 'i', 'o', 'n']).Refuses (blockClosing.render ++ []) :=
    (reads_blockClosing positive).judge_refuses (if_neg (by decide)) rfl
  rw [List.append_nil] at other
  exact (other.judge _).bind _

/-- The command that closes a block goes on like a block. -/
theorem goesOn_blockClosing (positive : 0 < limit) : GoesOn limit blockClosing.render := by
  intro offset
  have reads := reads_blockClosing positive offset
  rw [List.append_nil] at reads
  exact ⟨blockClosing, _, reads, by decide⟩

/-- The command that opens a block is read in front of what goes on like one. -/
theorem reads_blockHead (positive : 0 < limit) (goesOn : GoesOn limit more) :
    (blockHead limit).Reads blockOpening.render () more := by
  have opening : (command limit).Reads (blockOpening.render ++ []) blockOpening more :=
    reads_command rfl positive (runLength_eq_zero (goesOn.tokenLength_eq_zero _))
      (goesOn.headNot (by decide))
  rw [List.append_nil] at opening
  have noSpace : (skip .separators).Reads [] () (blockOpening.render ++ more) :=
    reads_skip (runLength_eq_zero rfl)
  exact noSpace.bind ((reads_commandNamed opening).bind_last (.pure () _))

/-- What follows the opening command is read as a block when productions and the closing command
follow. -/
theorem reads_blockBody {productions : List Production} (positive : 0 < limit)
    (nonempty : productions ≠ [])
    (reads : (many (production limit)).Reads text productions blockClosing.render) :
    (blockBody limit).Reads (text ++ blockClosing.render) ⟨productions⟩ [] := by
  intro offset
  have run := reads offset
  obtain ⟨values_eq, final_eq⟩ := Chain.toOutcome_eq_ok run
  have notEmpty : (chain (production limit) ⟨offset, text ++ blockClosing.render⟩).items.isEmpty
      = false := by
    rw [← List.isEmpty_map (f := Prod.fst), ← Chain.values, values_eq]
    simpa using nonempty
  have closing : (blockEnd limit).Reads blockClosing.render () [] :=
    (reads_commandNamed (reads_blockClosing positive)).bind_last
    (reads_skip (runLength_eq_zero rfl))
  have closed := closing (offset + text.length)
  rw [List.append_nil] at closed ⊢
  unfold many at run
  rw [blockBody, run]
  simp only [closeBlock, notEmpty, Bool.false_eq_true, if_false, final_eq, values_eq, closed]
  rw [List.length_append, ← Nat.add_assoc]
  rfl

/-- Under every limit that allows a command, texts that are productions by themselves are read as a
block of exactly these productions. -/
theorem run_mathBlock_flatten (positive : 0 < limit) {items : List (Text × Production)}
    (nonempty : items ≠ [])
    (each : ∀ item ∈ items, (production limit).run item.1 = .ok (item.2, [])) :
    (mathBlock limit).run
        (blockOpening.render ++ (items.map Prod.fst).flatten ++ blockClosing.render)
      = .ok (⟨items.map Prod.snd⟩, []) := by
  obtain ⟨productions, goesOn⟩ :=
    reads_productions (fun item mem => exists_of_run_eq_ok (each item mem))
      (goesOn_blockClosing positive) (production_refuses_blockClosing positive)
  have body := reads_blockBody positive (by simpa using nonempty) productions
  have block : (mathBlock limit).Reads
      (blockOpening.render ++ ((items.map Prod.fst).flatten ++ blockClosing.render))
      ⟨items.map Prod.snd⟩ [] :=
    (reads_blockHead positive goesOn).bind_end body
  have run := block 0
  rw [List.append_nil, ← List.append_assoc] at run
  rw [Parser.run, Cursor.start, run]

/-- **A block is the concatenation of its productions.** Between the commands that open and close a
block, texts that are productions by themselves are read as exactly these productions. -/
theorem parseMathBlock_flatten (items : List (Text × Production)) (nonempty : items ≠ [])
    (each : ∀ item ∈ items, parseProduction item.1 = .ok (item.2, [])) :
    parseMathBlock ("\\begin\x7barray\x7d".toList ++ (items.map Prod.fst).flatten
        ++ "\\end\x7barray\x7d".toList)
      = .ok (⟨items.map Prod.snd⟩, []) := by
  have opening_eq : "\\begin\x7barray\x7d".toList = blockOpening.render := rfl
  have closing_eq : "\\end\x7barray\x7d".toList = blockClosing.render := rfl
  rw [opening_eq, closing_eq]
  exact run_mathBlock_flatten (by decide) nonempty each

/-- A union with a vector and an arrow and with spacing behind its line break, and a record. -/
theorem parseMathBlock_values_and_limits :
    let v : Nonterminal := ⟨['v'], none⟩
    let u32 : Nonterminal := ⟨['u', '3', '2'], some .optional⟩
    let values : Text × Production :=
      ("\\production\x7bvalues\x7d \\v ::= \\T | \\vec(\\v) \\v \\to \\u32^? \\\\\\quad".toList,
        ⟨['v', 'a', 'l', 'u', 'e', 's'], [v], .union [[.terminal ⟨['T'], none⟩],
          [.vector ⟨v⟩, .arrow ⟨v, u32⟩]]⟩)
    let limits : Text × Production :=
      ("\\production\x7blimits\x7d \\u32 ::= \\\x7b\\MIN \\v, \\MAX \\u32^?\\\x7d \\\\ ".toList,
        ⟨['l', 'i', 'm', 'i', 't', 's'], [⟨['u', '3', '2'], none⟩],
          .record ⟨[(⟨['M', 'I', 'N'], none⟩, .nonterminal v),
            (⟨['M', 'A', 'X'], none⟩, .nonterminal u32)]⟩⟩)
    (∀ item ∈ [values, limits], parseProduction item.1 = .ok (item.2, [])) ∧
      parseMathBlock ("\\begin\x7barray\x7d".toList
        ++ ([values, limits].map Prod.fst).flatten ++ "\\end\x7barray\x7d".toList)
        = .ok (⟨[values.2, limits.2]⟩, []) := by
  intro v u32 values limits
  have each : ∀ item ∈ [values, limits], parseProduction item.1 = .ok (item.2, []) := by
    intro item mem
    rcases List.mem_cons.1 mem with rfl | mem
    · decide +kernel
    · obtain rfl := List.mem_singleton.1 mem
      decide +kernel
  exact ⟨each, parseMathBlock_flatten [values, limits] (List.cons_ne_nil _ _) each⟩

end Parser

end MathGrammar
