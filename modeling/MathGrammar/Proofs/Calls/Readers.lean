import MathGrammar.Proofs.Calls.Basic

/-! # The calls of the readers

Every reader of the notation has a trace. A missing argument therefore ends the whole run, whatever
was tried around it, and so does a command that is nested too deeply. -/

namespace MathGrammar

namespace Trace

/-! ### Spacing and signs -/

/-- Spacing is skipped without a call. -/
def skip (spacing : Spacing) : Trace (Parser.skip spacing) := leaf (Parser.harmless_skip spacing)

/-- Characters are read without a call. -/
def literal (characters : Text) : Trace (Parser.literal characters) :=
  leaf (Parser.harmless_literal characters)

/-- A sign is read without a call. -/
def token (characters : Text) (spacing : Spacing) : Trace (Parser.token characters spacing) :=
  (literal characters).bind fun _ => skip spacing

/-! ### Commands -/

/-- The calls of an argument, whose nested commands are read as `inner` says. -/
def argument {p : Parser Command} (inner : Trace p) : Trace (Parser.argument p) :=
  call (.construct .argument) <| (literal ['\x7b']).bind fun _ =>
    orElse (inner.bind fun _ => (literal ['\x7d']).bind fun _ => pure _)
      (orElse (leaf Parser.harmless_literalArgument) (complain _ rfl))

/-- A command beyond the limit on nesting, which calls no other. -/
def beyondLimit : Trace (Parser.command 0) where
  recorded cursor :=
    (Recorded.silent (Parser.command 0 cursor)).called (.construct .command) cursor
  outcome_eq _ := rfl
  decides mem _ := by
    obtain rfl := List.mem_singleton.1 mem
    rfl
  arises {cursor} final := by
    refine ⟨_, List.mem_singleton_self _, ?_, rfl⟩
    cases run : Parser.command 0 cursor with
    | ok value next =>
        rw [run] at final
        exact absurd final nofun
    | fail fault =>
        rw [run] at final
        have recoverable := Parser.failsRecoverably_command 0 run
        simp [Outcome.isFinal, recoverable] at final
    | tooDeep => rfl

/-- The calls of a command: those of its arguments, and of the commands in them. -/
def command : (limit : Nat) → Trace (Parser.command limit)
  | 0 => beyondLimit
  | limit + 1 =>
    call (.construct .command) <| (leaf Parser.harmless_commandName).bind fun _ =>
      (leaf Parser.harmless_params).bind fun _ => (argument (command limit)).many.bind fun _ =>
        (leaf Parser.harmless_repetition).bind fun _ => (skip .inline).bind fun _ => pure _

variable (limit : Nat)

/-- The calls of a command of a given name. -/
def commandNamed (kind : FaultKind) (mild : kind.recoverable = true) (name : Text) :
    Trace (Parser.commandNamed limit kind name) :=
  (command limit).judge _ (Parser.recoverable_of_commandNamed mild)

/-! ### Symbols -/

/-- The calls of a terminal. -/
def terminal : Trace (Parser.terminal limit) :=
  judgeArgument (.construct .terminal) (by decide) (command limit) _

/-- The calls of a nonterminal. -/
def nonterminal : Trace (Parser.nonterminal limit) :=
  judgeArgument (.construct .nonterminal) (by decide) (command limit) _

/-- The calls of a vector. -/
def vector : Trace (Parser.vector limit) :=
  call (.construct .vector) <| (commandNamed limit _ rfl _).bind fun _ => (token _ _).bind fun _ =>
    (nonterminal limit).bind fun _ => (token _ _).bind fun _ => pure _

/-- The calls of a vector in brackets. -/
def bracedVector : Trace (Parser.bracedVector limit) :=
  call (.construct .bracedVector) <| (token _ _).bind fun _ => (vector limit).bind fun _ =>
    (token _ _).bind fun _ => pure _

/-- The calls of an arrow. -/
def arrow : Trace (Parser.arrow limit) :=
  call (.construct .arrow) <| (nonterminal limit).bind fun _ =>
    (commandNamed limit _ rfl _).bind fun _ => (nonterminal limit).bind fun _ => pure _

/-- The calls of the value of a field. -/
def fieldValue : Trace (Parser.fieldValue limit) :=
  call .fieldValue <| orElse ((vector limit).map _) <| orElse ((nonterminal limit).map _) <|
    complain _ rfl

/-- The calls of a field. -/
def recordField : Trace (Parser.recordField limit) :=
  call .recordField <| (skip _).bind fun _ => (terminal limit).bind fun _ =>
    (fieldValue limit).bind fun _ => (skip _).bind fun _ => pure _

/-- The calls of a record. -/
def record : Trace (Parser.record limit) :=
  call (.construct .record) <| (token _ _).bind fun _ =>
    ((recordField limit).separated1 (literal [',']) _).bind fun _ =>
    (token _ _).bind fun _ => pure _

/-- The calls of a symbol: those of the shapes, up to the one that is read. -/
def symbol : Trace (Parser.symbol limit) :=
  call (.construct .symbol) <| orElse ((record limit).map _) <| orElse ((arrow limit).map _) <|
    orElse ((bracedVector limit).map _) <| orElse ((vector limit).map _) <|
      orElse ((nonterminal limit).map _) <| orElse ((terminal limit).map _) <| complain _ rfl

/-! ### Productions -/

/-- The calls of a bar. -/
def bar : Trace Parser.bar :=
  call (.construct .bar) <| (skip _).bind fun _ => token _ _

/-- The calls of the sign between the two sides. -/
def equalSign : Trace Parser.equalSign := call (.construct .equalSign) <| token _ _

/-- The calls of a line break. -/
def lineBreak : Trace Parser.lineBreak :=
  call (.construct .lineBreak) <| (skip _).bind fun _ => token _ _

/-- The calls of a case: those of its symbols. -/
def unionCase : Trace (Parser.unionCase limit) :=
  call .unionCase <| (symbol limit).many1 _

/-- The calls of the cases of a union. -/
def unionCases : Trace (Parser.unionCases limit) :=
  call (.construct .union) <| (unionCase limit).separated1 bar _

/-- The calls of a right-hand side. -/
def rightHandSide : Trace (Parser.rightHandSide limit) :=
  call (.construct .rightHandSide) <| orElse ((unionCases limit).map _) <|
    orElse ((record limit).map _) <| complain _ rfl

/-- The calls of a symbol on the left-hand side. -/
def definedSymbol : Trace (Parser.definedSymbol limit) :=
  call .definedSymbol <| (command limit).map _

/-- The calls of the command that begins a production. -/
def productionHead : Trace (Parser.productionHead limit) :=
  judgeArgument .productionHead (by decide) (commandNamed limit _ rfl _) _

/-- The calls of a production: those of its head, of the two sides and of its line break. -/
def production : Trace (Parser.production limit) :=
  call (.construct .production) <| (productionHead limit).bind fun _ =>
    (definedSymbol limit).many.bind fun _ => (equalSign.orElse (complain _ rfl)).bind fun _ =>
      (rightHandSide limit).bind fun _ => lineBreak.bind fun _ => pure _

/-! ### Blocks -/

/-- The calls of the command that opens a block. -/
def blockHead : Trace (Parser.blockHead limit) :=
  call .blockHead <| (skip _).bind fun _ => (commandNamed limit _ rfl _).bind fun _ => pure _

/-- The calls of the command that closes a block. -/
def blockEnd : Trace (Parser.blockEnd limit) :=
  call .blockEnd <| (commandNamed limit _ rfl _).bind fun _ => skip _

end Trace

namespace Parser

variable (limit : Nat)

/-- The command that closes a block is missed only in ways that may be made up for. -/
theorem failsRecoverably_blockEnd : (blockEnd limit).FailsRecoverably :=
  (failsRecoverably_commandNamed limit rfl _).bind fun _ => (harmless_skip _).failsRecoverably

/-- A block is closed behind a chain of productions that ends quietly. -/
theorem blockBody_apply (cursor : Cursor) : blockBody limit cursor =
    (many (production limit) cursor).bind fun _ _ =>
      closeBlock limit (chain (production limit) cursor) := by
  simp only [blockBody, many]
  cases (chain (production limit) cursor).toOutcome <;> rfl

/-- A chain that ends quietly has not been stopped for good. -/
theorem recoverable_of_many {p : Parser α} {cursor next : Cursor} {values : List α}
    (run : many p cursor = .ok values next) {fault : Fault}
    (stop : (chain p cursor).stop = .fault fault) : fault.recoverable = true := by
  unfold many Chain.toOutcome at run
  rw [stop] at run
  by_cases recoverable : fault.recoverable = true
  · exact recoverable
  · simp [recoverable] at run

variable {limit} {productions : Chain Production}

/-- The fault that is put in front may be made up for when both candidates may. -/
theorem recoverable_deeperFault {fallback : Fault}
    (stopped : ∀ fault, productions.stop = .fault fault → fault.recoverable = true)
    (mild : fallback.recoverable = true) :
    (productions.deeperFault fallback).recoverable = true := by
  rcases productions.deeperFault_eq_or fallback with same | ⟨fault, stop_eq, deeper⟩
  · rwa [same]
  · rw [deeper]
    exact stopped fault stop_eq

/-- The command that closes a block ends the block for good when it nests too deeply. -/
theorem ending_closeBlock (some : ¬productions.items.isEmpty = true)
    (final : (blockEnd limit productions.final).isFinal = true) :
    (closeBlock limit productions).ending = (blockEnd limit productions.final).ending := by
  unfold closeBlock
  rw [if_neg some]
  cases run : blockEnd limit productions.final with
  | ok value next =>
      rw [run] at final
      exact absurd final nofun
  | fail fault =>
      rw [run] at final
      simp [Outcome.isFinal, failsRecoverably_blockEnd limit run] at final
  | tooDeep => rfl

/-- Of the command that closes a block, only the nesting can end the block for good: neither is its
fault one that may not be replaced, nor is the one that replaces it. -/
theorem isFinal_closeBlock
    (stopped : ∀ fault, productions.stop = .fault fault → fault.recoverable = true)
    (final : (closeBlock limit productions).isFinal = true) :
    productions.items.isEmpty = false ∧ blockEnd limit productions.final = .tooDeep ∧
      closeBlock limit productions = .tooDeep := by
  unfold closeBlock at final ⊢
  by_cases none : productions.items.isEmpty = true
  · rw [if_pos none] at final
    have recoverable : (productions.deeperFault
        ⟨⟨.emptyMatch, .someProduction⟩, productions.final.offset⟩).recoverable = true :=
      recoverable_deeperFault stopped rfl
    simp [Outcome.isFinal, recoverable] at final
  · rw [if_neg none] at final ⊢
    cases run : blockEnd limit productions.final with
    | ok value next => simp [run, Outcome.mapFault, Outcome.isFinal] at final
    | fail fault =>
        have recoverable := recoverable_deeperFault stopped (failsRecoverably_blockEnd limit run)
        simp [run, Outcome.mapFault, Outcome.isFinal, recoverable] at final
    | tooDeep => exact ⟨by simpa using none, rfl, rfl⟩

end Parser

namespace Trace

variable (limit : Nat)

/-- The rest of a block after its productions: where there are any, the command that closes the
block is called. -/
def closeBlock (productions : Chain Production) : Recorded MathBlock :=
  if productions.items.isEmpty then
    .silent <| .fail <|
      productions.deeperFault ⟨⟨.emptyMatch, .someProduction⟩, productions.final.offset⟩
  else
    (((blockEnd limit).recorded productions.final).mapFault productions.deeperFault).andThen
      fun _ next => .ok ⟨productions.values⟩ next

/-- Recording the calls does not change how a block is closed. -/
theorem outcome_closeBlock (productions : Chain Production) :
    (closeBlock limit productions).outcome = Parser.closeBlock limit productions := by
  unfold closeBlock Parser.closeBlock
  by_cases none : productions.items.isEmpty = true
  · rw [if_pos none, if_pos none]
    rfl
  · rw [if_neg none, if_neg none, Recorded.outcome_andThen, Recorded.mapFault,
      (blockEnd limit).outcome_eq]

/-- A block is closed by the calls of its closing command, and only behind a production. -/
theorem mem_calls_closeBlock {productions : Chain Production} {call : Call} :
    call ∈ (closeBlock limit productions).calls ↔
      ¬productions.items.isEmpty = true ∧ call ∈ (blockEnd limit).calls productions.final := by
  unfold closeBlock
  by_cases none : productions.items.isEmpty = true
  · simp [none, Recorded.silent]
  · simp [none, Recorded.andThen, Recorded.mapFault, calls]

/-- What follows the opening command of a block calls its productions and, where there are any, the
command that closes the block. -/
def blockBody : Trace (Parser.blockBody limit) where
  recorded cursor :=
    let productions := Recorded.chain (production limit).recorded cursor
    Recorded.bind ⟨productions.1, productions.2.toOutcome⟩ fun _ _ =>
      closeBlock limit productions.2
  outcome_eq cursor := by
    rw [Recorded.outcome_bind, Parser.blockBody_apply, (production limit).snd_chain]
    simp only [outcome_closeBlock, Parser.many]
  decides {cursor call} mem final := by
    rw [Parser.blockBody_apply]
    rcases Recorded.mem_calls_bind.1 mem with mem | ⟨values, next, run, mem⟩
    · have ending_eq := (production limit).many.decides mem final
      rw [Outcome.ending_bind ((production limit).many.isFinal_of_mem mem final), ending_eq]
    · rw [(production limit).snd_chain] at run mem
      have read : Parser.many (Parser.production limit) cursor = .ok values next := run
      obtain ⟨some, mem⟩ := (mem_calls_closeBlock limit).1 mem
      -- The handler around the closing command changes its fault, but none that is for good.
      have ending_eq := (blockEnd limit).decides mem final
      have stopped := (blockEnd limit).isFinal_of_mem mem final
      rw [read, Outcome.bind_ok, ← ending_eq]
      exact Parser.ending_closeBlock some stopped
  arises {cursor} final := by
    rw [Parser.blockBody_apply] at final ⊢
    by_cases stopped : (Parser.many (Parser.production limit) cursor).isFinal = true
    · exact (production limit).many.exists_call stopped (Outcome.ending_bind stopped _)
        fun call mem => Recorded.mem_calls_bind.2 (.inl mem)
    · cases run : Parser.many (Parser.production limit) cursor with
      | ok values next =>
          rw [run, Outcome.bind_ok] at final
          obtain ⟨some, deep, closed⟩ :=
            Parser.isFinal_closeBlock (fun _ => Parser.recoverable_of_many run) final
          rw [Outcome.bind_ok, closed]
          have stopped : (Parser.blockEnd limit
              (Parser.chain (Parser.production limit) cursor).final).isFinal = true := by
            rw [deep]
            rfl
          refine (blockEnd limit).exists_call stopped (by rw [deep]; rfl) fun call mem => ?_
          refine Recorded.mem_calls_bind.2 (.inr ⟨values, next, ?_, ?_⟩)
          · rw [(production limit).snd_chain]
            exact run
          · rw [(production limit).snd_chain]
            exact (mem_calls_closeBlock limit).2 ⟨Bool.eq_false_iff.1 some, mem⟩
      | fail fault =>
          rw [run] at final stopped
          exact absurd final stopped
      | tooDeep =>
          rw [run] at stopped
          exact absurd rfl stopped

/-- The calls of a block: those of its opening command, its productions and its closing command. -/
def mathBlock : Trace (Parser.mathBlock limit) :=
  call (.construct .mathBlock) <| (blockHead limit).bind fun _ => blockBody limit

/-- The calls of a construct. -/
def ofConstruct : (construct : Construct) → Trace (construct.parser limit)
  | .command => (command limit).map _
  | .argument => (argument (command limit)).map _
  | .repetition => (leaf Parser.harmless_repetition).map _
  | .terminal => (terminal limit).map _
  | .nonterminal => (nonterminal limit).map _
  | .record => (record limit).map _
  | .vector => (vector limit).map _
  | .bracedVector => (bracedVector limit).map _
  | .arrow => (arrow limit).map _
  | .symbol => (symbol limit).map _
  | .union => (unionCases limit).map _
  | .rightHandSide => (rightHandSide limit).map _
  | .production => (production limit).map _
  | .mathBlock => (mathBlock limit).map _
  | .equalSign => equalSign.map _
  | .bar => bar.map _
  | .lineBreak => lineBreak.map _

end Trace

/-! ### Missing arguments -/

/-- The run fails with the fault, and the fault is that of a missing argument. -/
def Outcome.MissesArgument {α : Type} (outcome : Outcome α) (fault : Fault) : Prop :=
  outcome = .fail fault ∧ fault.kind = .missingArgument

/-- A run that misses an argument ends for good. -/
theorem Outcome.MissesArgument.isFinal {α : Type} {outcome : Outcome α} {fault : Fault}
    (misses : outcome.MissesArgument fault) : outcome.isFinal = true := by
  obtain ⟨rfl, missing⟩ := misses
  exact Outcome.isFinal_of_missing missing

/-- **A missing argument is never made up for.** When any call of a run misses an argument, the run
fails with that very fault; so a run that succeeds, or fails in another way, has made no such call.
A run fails so only because a terminal, a nonterminal or the label of a production was called that
misses its argument. Commands themselves, which are all that is called where every fault gives way
to another one, miss none. -/
theorem missingArgument_ends_run (limit : Nat) (construct : Construct) (cursor : Cursor) :
    (∀ call ∈ (Trace.ofConstruct limit construct).calls cursor, ∀ fault,
      call.ending.MissesArgument fault →
        (construct.parser limit cursor).MissesArgument fault) ∧
    ((∀ fault, ¬(construct.parser limit cursor).MissesArgument fault) →
      ∀ call ∈ (Trace.ofConstruct limit construct).calls cursor, ∀ fault,
        ¬call.ending.MissesArgument fault) ∧
    (∀ fault, (construct.parser limit cursor).MissesArgument fault →
      ∃ call ∈ (Trace.ofConstruct limit construct).calls cursor,
        call.callee ∈ Callee.askingForArgument ∧ call.ending.MissesArgument fault) ∧
    (∀ place fault, ¬(Parser.command limit place).MissesArgument fault) := by
  have decides : ∀ call ∈ (Trace.ofConstruct limit construct).calls cursor, ∀ fault,
      call.ending.MissesArgument fault →
        (construct.parser limit cursor).MissesArgument fault := by
    intro call mem fault misses
    have ending_eq := (Trace.ofConstruct limit construct).decides mem misses.isFinal
    rw [misses.1, Outcome.ending_eq_fail_iff] at ending_eq
    exact ⟨ending_eq, misses.2⟩
  refine ⟨decides, ?_, ?_, ?_⟩
  · intro otherwise call mem fault misses
    exact otherwise fault (decides call mem fault misses)
  · intro fault misses
    obtain ⟨call, mem, raises, ending_eq⟩ :=
      (Trace.ofConstruct limit construct).arises misses.isFinal
    rw [misses.1, Outcome.ending] at ending_eq
    rw [Call.raises, ending_eq] at raises
    exact ⟨call, mem, List.contains_iff_mem.1 raises, ending_eq, misses.2⟩
  · rintro place fault ⟨failed, missing⟩
    have recoverable := Parser.failsRecoverably_command limit failed
    rw [Fault.recoverable_eq_false_iff.2 missing] at recoverable
    exact absurd recoverable Bool.false_ne_true

/-- The target of an arrow misses its argument, inside the second production of a block, in front of
another case and of the command that closes the block. -/
theorem missingArgument_ends_block :
    let text : Text :=
      "\\begin\x7ba\x7d\\production\x7bp\x7d\\a::=\\b\\\\".toList ++
        "\\production\x7bq\x7d\\c::=\\v\\to\\X|\\d\\\\\\end\x7ba\x7d".toList
    let fault : Fault := ⟨⟨.missingArgument, .escapedName ['X']⟩, 56⟩
    let call : Call := ⟨.construct .nonterminal, .ofOffset text 56, .fail fault⟩
    call ∈ (Trace.ofConstruct nestingLimit .mathBlock).calls (.start text) ∧
      Construct.mathBlock.parser nestingLimit (.start text) = .fail fault := by
  intro text fault call
  have mem : call ∈ (Trace.ofConstruct nestingLimit .mathBlock).calls (.start text) := by
    decide +kernel
  obtain ⟨decides, -⟩ := missingArgument_ends_run nestingLimit .mathBlock (.start text)
  exact ⟨mem, (decides call mem fault ⟨rfl, rfl⟩).1⟩

end MathGrammar
