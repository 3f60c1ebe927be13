import MathGrammar.Construct
import MathGrammar.Proofs.Simulation.Basic

/-! # Related readers

The readers of the notation are built from a few elementary ones by combinators that keep
relatedness. A simulation under which the elementary readers of commands are related relates
commands; one that in addition relates the elementary readers of symbols relates symbols, cases,
right-hand sides and whole productions. -/

namespace MathGrammar

namespace Simulation

variable (S : Simulation)

/-- The elementary readers of commands are related to themselves. -/
structure RelatesCommands : Prop where
  /-- The backslash and the name. -/
  commandName : S.Related Parser.commandName Parser.commandName
  /-- The parameters. -/
  params : S.Related Parser.params Parser.params
  /-- The mark of repetition. -/
  repetition : S.Related Parser.repetition Parser.repetition
  /-- A literal argument. -/
  literalArgument : S.Related Parser.literalArgument Parser.literalArgument
  /-- The brace that opens an argument. -/
  openBrace : S.Related (Parser.literal ['\x7b']) (Parser.literal ['\x7b'])
  /-- The brace that closes one. -/
  closeBrace : S.Related (Parser.literal ['\x7d']) (Parser.literal ['\x7d'])
  /-- The spacing behind a command. -/
  inline : S.Related (Parser.skip .inline) (Parser.skip .inline)

/-- The signs inside a right-hand side. -/
def signs : List Text :=
  [['('], [')'], ['['], [']'], [','], ['|'], ['\\', '\x7b'], ['\\', '\x7d']]

/-- The signs of a whole production: those, the sign between its two sides, and the line break. -/
def productionSigns : List Text := [':', ':', '='] :: ['\\', '\\'] :: signs

/-- The elementary readers of right-hand sides are related under two limits. -/
structure RelatesSymbols (limit limit' : Nat) : Prop where
  /-- A terminal. -/
  terminal : S.Related (Parser.terminal limit) (Parser.terminal limit')
  /-- A nonterminal. -/
  nonterminal : S.Related (Parser.nonterminal limit) (Parser.nonterminal limit')
  /-- The command in front of a vector, and the one inside an arrow. -/
  named : ∀ name ∈ [['v', 'e', 'c'], ['t', 'o']],
    S.Related (Parser.commandNamed limit .unclassifiable name)
      (Parser.commandNamed limit' .unclassifiable name)
  /-- A sign. -/
  sign : ∀ characters ∈ signs,
    S.Related (Parser.literal characters) (Parser.literal characters)
  /-- Spacing. -/
  skip : ∀ spacing, S.Related (Parser.skip spacing) (Parser.skip spacing)

variable {S} {limit limit' : Nat}

/-! ### Commands -/

/-- Arguments are related when the commands in them are. -/
theorem Related.argument (elementary : S.RelatesCommands) {p q : Parser Command}
    (command : S.Related p q) : S.Related (Parser.argument p) (Parser.argument q) := by
  have nested : S.Related (Parser.nestedArgument p) (Parser.nestedArgument q) :=
    command.bind fun _ => elementary.closeBrace.bind fun _ => .pure _
  exact elementary.openBrace.bind fun _ =>
    .firstOf _ (.cons nested (.cons elementary.literalArgument .nil))

/-- Commands are related under one limit, and under a lower and a higher one when the first run may
nest too deeply. -/
theorem RelatesCommands.command (elementary : S.RelatesCommands)
    (limits : limit = limit' ∨ S.Lenient ∧ limit ≤ limit') :
    S.Related (Parser.command limit) (Parser.command limit') := by
  -- On the first limit: the commands in the arguments are read under the limits before the two.
  induction limit generalizing limit' with
  | zero =>
      cases limit' with
      | zero => exact elementary.commandName.bind fun _ _ _ _ => .tooDeep
      | succ limit' =>
          have lenient : S.Lenient := (limits.resolve_left (by simp)).1
          exact elementary.commandName.bind fun _ _ _ _ => .lenient lenient _
  | succ limit ih =>
      cases limit' with
      | zero => rcases limits with h | ⟨_, h⟩ <;> omega
      | succ limit' =>
          have inner : S.Related (Parser.command limit) (Parser.command limit') :=
            ih (limits.imp (by omega) (And.imp_right (by omega)))
          exact elementary.commandName.bind fun _ => elementary.params.bind fun _ =>
            (inner.argument elementary).many.bind fun _ => elementary.repetition.bind fun _ =>
            elementary.inline.bind fun _ => .pure _

/-- Commands of a given name are related when commands are. -/
theorem Related.commandNamed (kind : FaultKind) (name : Text)
    (command : S.Related (Parser.command limit) (Parser.command limit')) :
    S.Related (Parser.commandNamed limit kind name) (Parser.commandNamed limit' kind name) :=
  command.judge _

/-- Where commands, spacing and signs are related, so are the elementary readers of symbols. -/
theorem RelatesSymbols.ofCommand
    (command : S.Related (Parser.command limit) (Parser.command limit'))
    (sign : ∀ characters ∈ signs,
      S.Related (Parser.literal characters) (Parser.literal characters))
    (skip : ∀ spacing, S.Related (Parser.skip spacing) (Parser.skip spacing)) :
    S.RelatesSymbols limit limit' where
  terminal := command.judge _
  nonterminal := command.judge _
  named _ _ := command.commandNamed _ _
  sign := sign
  skip := skip

/-! ### Symbols -/

namespace RelatesSymbols

variable (elementary : S.RelatesSymbols limit limit')

include elementary

/-- A sign with the spacing behind it is related to itself. -/
theorem token {characters : Text} (mem : characters ∈ signs) (spacing : Spacing) :
    S.Related (Parser.token characters spacing) (Parser.token characters spacing) :=
  (elementary.sign characters mem).bind fun _ => elementary.skip spacing

/-- Vectors are related under the two limits. -/
theorem vector : S.Related (Parser.vector limit) (Parser.vector limit') :=
  (elementary.named _ (by simp)).bind fun _ => (elementary.token (by simp [signs]) _).bind fun _ =>
    elementary.nonterminal.bind fun _ => (elementary.token (by simp [signs]) _).bind fun _ =>
      .pure _

/-- Vectors in brackets are related under the two limits. -/
theorem bracedVector : S.Related (Parser.bracedVector limit) (Parser.bracedVector limit') :=
  (elementary.token (by simp [signs]) _).bind fun _ => elementary.vector.bind fun _ =>
    (elementary.token (by simp [signs]) _).bind fun _ => .pure _

/-- Arrows are related under the two limits. -/
theorem arrow : S.Related (Parser.arrow limit) (Parser.arrow limit') :=
  elementary.nonterminal.bind fun _ => (elementary.named _ (by simp)).bind fun _ =>
    elementary.nonterminal.bind fun _ => .pure _

/-- The values of fields are related under the two limits. -/
theorem fieldValue : S.Related (Parser.fieldValue limit) (Parser.fieldValue limit') :=
  .firstOf _ (.cons (elementary.vector.map _) (.cons (elementary.nonterminal.map _) .nil))

/-- Fields are related under the two limits. -/
theorem recordField : S.Related (Parser.recordField limit) (Parser.recordField limit') :=
  (elementary.skip _).bind fun _ => elementary.terminal.bind fun _ =>
    elementary.fieldValue.bind fun _ => (elementary.skip _).bind fun _ => .pure _

/-- Records are related under the two limits. -/
theorem record : S.Related (Parser.record limit) (Parser.record limit') :=
  (elementary.token (by simp [signs]) _).bind fun _ =>
    (elementary.recordField.separated1 _ (elementary.sign _ (by simp [signs]))).bind fun _ =>
      (elementary.token (by simp [signs]) _).bind fun _ => .pure _

/-- Symbols are related under the two limits, shape by shape. -/
theorem symbol : S.Related (Parser.symbol limit) (Parser.symbol limit') :=
  .firstOf _ (.cons (elementary.record.map _) (.cons (elementary.arrow.map _)
    (.cons (elementary.bracedVector.map _) (.cons (elementary.vector.map _)
      (.cons (elementary.nonterminal.map _) (.cons (elementary.terminal.map _) .nil))))))

/-! ### Right-hand sides -/

/-- Cases are related under the two limits. -/
theorem unionCase : S.Related (Parser.unionCase limit) (Parser.unionCase limit') :=
  elementary.symbol.many1 _

/-- Bars know of no limit. -/
theorem bar : S.Related Parser.bar Parser.bar :=
  (elementary.skip _).bind fun _ => elementary.token (by simp [signs]) _

/-- Cases with bars between them are related under the two limits. -/
theorem unionCases : S.Related (Parser.unionCases limit) (Parser.unionCases limit') :=
  elementary.unionCase.separated1 _ elementary.bar

/-- Right-hand sides are related under the two limits. -/
theorem rightHandSide : S.Related (Parser.rightHandSide limit) (Parser.rightHandSide limit') :=
  .firstOf _ (.cons (elementary.unionCases.map _) (.cons (elementary.record.map _) .nil))

end RelatesSymbols

/-! ### Productions and blocks -/

variable (S) in
/-- Commands, signs and spacing are related under two limits, and corresponding faults lie beyond
corresponding places alike. -/
structure RelatesBlocks (limit limit' : Nat) : Prop where
  /-- A command. -/
  command : S.Related (Parser.command limit) (Parser.command limit')
  /-- A sign. -/
  sign : ∀ characters ∈ productionSigns,
    S.Related (Parser.literal characters) (Parser.literal characters)
  /-- Spacing. -/
  skip : ∀ spacing, S.Related (Parser.skip spacing) (Parser.skip spacing)
  /-- A fault lies beyond a place in both runs or in neither. -/
  beyond_iff : ∀ {c c' : Cursor} {fault fault' : Fault}, S.Places c c' → S.Faults fault fault' →
    (c.offset < fault.offset ↔ c'.offset < fault'.offset)

/-- Related outcomes stay related when their faults are changed in related ways. -/
theorem Outcomes.mapFault {α : Type} {first second : Outcome α} {change change' : Fault → Fault}
    (outcomes : S.Outcomes first second)
    (changes : ∀ {fault fault'}, S.Faults fault fault' → S.Faults (change fault) (change' fault')) :
    S.Outcomes (first.mapFault change) (second.mapFault change') := by
  cases outcomes with
  | ok value places => exact .ok value places
  | fail faults => exact .fail (changes faults)
  | tooDeep => exact .tooDeep
  | lenient lenient => exact .lenient lenient _

namespace RelatesBlocks

variable (elementary : S.RelatesBlocks limit limit')

include elementary

/-- What relates the readers of blocks relates those of symbols. -/
theorem symbols : S.RelatesSymbols limit limit' :=
  .ofCommand elementary.command
    (fun _ mem => elementary.sign _ (List.mem_cons_of_mem _ (List.mem_cons_of_mem _ mem)))
    elementary.skip

/-- The sign between the two sides knows of no limit. -/
theorem equalSign : S.Related Parser.equalSign Parser.equalSign :=
  (elementary.sign _ (by simp [productionSigns])).bind fun _ => elementary.skip _

/-- Line breaks know of no limit. -/
theorem lineBreak : S.Related Parser.lineBreak Parser.lineBreak :=
  (elementary.skip _).bind fun _ =>
    (elementary.sign _ (by simp [productionSigns])).bind fun _ => elementary.skip _

/-- The heads of productions are related under the two limits. -/
theorem productionHead :
    S.Related (Parser.productionHead limit) (Parser.productionHead limit') :=
  (elementary.command.commandNamed _ _).judge _

/-- Symbols on the left-hand side are related under the two limits. -/
theorem definedSymbol : S.Related (Parser.definedSymbol limit) (Parser.definedSymbol limit') :=
  elementary.command.map _

/-- Productions are related under the two limits. -/
theorem production : S.Related (Parser.production limit) (Parser.production limit') :=
  elementary.productionHead.bind fun _ => elementary.definedSymbol.many.bind fun _ =>
    (elementary.equalSign.orElse (.complain _)).bind fun _ =>
      elementary.symbols.rightHandSide.bind fun _ => elementary.lineBreak.bind fun _ => .pure _

/-- Corresponding chains put the same one of two corresponding faults in front. -/
theorem deeperFault {α : Type} {first second : Chain α} (chains : S.Chains first second)
    {fault fault' : Fault} (faults : S.Faults fault fault') :
    S.Faults (first.deeperFault fault) (second.deeperFault fault') := by
  obtain ⟨items, final, stop⟩ := first
  obtain ⟨items', final', stop'⟩ := second
  obtain ⟨-, places, stops⟩ := chains
  simp only [Chain.deeperFault]
  cases stops with
  | fault stopped =>
      -- Both runs find the fault of the chain further on than its end, or neither does.
      simp only [elementary.beyond_iff places stopped]
      split
      · exact stopped
      · exact faults
  | tooDeep => exact faults
  | stalled => exact faults

/-- Blocks are closed alike behind related chains, with related faults put in front. -/
theorem closeBlock {first second : Chain Production} (chains : S.Chains first second) :
    S.Outcomes (Parser.closeBlock limit first) (Parser.closeBlock limit' second) := by
  have empty_eq : first.items.isEmpty = second.items.isEmpty := by
    have h := congrArg List.isEmpty chains.values_eq
    simpa only [Chain.values, List.isEmpty_map] using h
  have blockEnd : S.Related (Parser.blockEnd limit) (Parser.blockEnd limit') :=
    (elementary.command.commandNamed _ _).bind fun _ => elementary.skip _
  simp only [Parser.closeBlock, empty_eq, chains.values_eq]
  split
  · exact .fail
      (elementary.deeperFault chains (S.located ⟨.emptyMatch, .someProduction⟩ chains.final))
  · exact ((blockEnd chains.final).mapFault (elementary.deeperFault chains)).bind
      fun _ _ _ places => .ok _ places

/-- What follows the opening commands of blocks is related under the two limits. -/
theorem blockBody : S.Related (Parser.blockBody limit) (Parser.blockBody limit') := by
  intro c c' places
  simp only [Parser.blockBody]
  rcases elementary.production.chain places with chains | ⟨lenient, deep⟩
  · have outcomes := chains.toOutcome
    generalize (Parser.chain (Parser.production limit) c).toOutcome = o at outcomes ⊢
    generalize (Parser.chain (Parser.production limit') c').toOutcome = o' at outcomes ⊢
    cases outcomes with
    | ok => exact elementary.closeBlock chains
    | fail faults => exact .fail faults
    | tooDeep => exact .tooDeep
    | lenient lenient => exact .lenient lenient _
  · simp only [Chain.toOutcome, deep]
    exact .lenient lenient _

/-- Blocks are related under the two limits. -/
theorem mathBlock : S.Related (Parser.mathBlock limit) (Parser.mathBlock limit') := by
  have head : S.Related (Parser.blockHead limit) (Parser.blockHead limit') :=
    (elementary.skip _).bind fun _ => (elementary.command.commandNamed _ _).bind fun _ => .pure _
  exact head.bind fun _ => elementary.blockBody

/-- Where the elementary readers are related, so is every construct. -/
theorem construct (commands : S.RelatesCommands) (construct : Construct) :
    S.Related (construct.parser limit) (construct.parser limit') := by
  have symbols : S.RelatesSymbols limit limit' := elementary.symbols
  cases construct with
  | command => exact elementary.command.map _
  | argument => exact (elementary.command.argument commands).map _
  | repetition => exact commands.repetition.map _
  | terminal => exact symbols.terminal.map _
  | nonterminal => exact symbols.nonterminal.map _
  | record => exact symbols.record.map _
  | vector => exact symbols.vector.map _
  | bracedVector => exact symbols.bracedVector.map _
  | arrow => exact symbols.arrow.map _
  | symbol => exact symbols.symbol.map _
  | union => exact symbols.unionCases.map _
  | rightHandSide => exact symbols.rightHandSide.map _
  | production => exact elementary.production.map _
  | mathBlock => exact elementary.mathBlock.map _
  | equalSign => exact elementary.equalSign.map _
  | bar => exact symbols.bar.map _
  | lineBreak => exact elementary.lineBreak.map _

end RelatesBlocks

end Simulation

end MathGrammar
