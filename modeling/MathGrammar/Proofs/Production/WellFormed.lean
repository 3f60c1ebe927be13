import MathGrammar.Proofs.Symbol.WellFormed
import MathGrammar.WholeText

/-! # Well-formed blocks

The trees of right-hand sides, productions and blocks that reading can give. Such a block is written
with one line for each production. -/

namespace MathGrammar

/-! ### Trees of productions -/

namespace Node

/-- Whether the trees make up a case: at least one symbol. -/
def isCase (symbols : List Node) : Bool := !symbols.isEmpty && symbols.all isSymbol

/-- Whether a single record is the only case. -/
def isRecordAsUnion : List (List Node) → Bool
  | [[.record _]] => true
  | _ => false

/-- Whether the tree is a right-hand side: a union of at least one case, or a record. A record that
is the only case is no union. -/
def isRightHandSide : Node → Bool
  | .union cases => !cases.isEmpty && cases.all isCase && !isRecordAsUnion cases
  | .recordAlone inner => inner.isRecord
  | _ => false

/-- Whether the tree is a nonterminal with the name of a command, as on a left-hand side. -/
def isDefinedSymbol : Node → Bool
  | .nonterminal n => isName n.name
  | _ => false

/-- Whether the tree is a production: its label is a literal, and it defines nonterminals. -/
def isProduction : Node → Bool
  | .production label lhs rhs =>
    label.all isLiteralChar && lhs.all isDefinedSymbol && rhs.isRightHandSide
  | _ => false

/-- Whether the tree is a block of at least one production. -/
def isBlock : Node → Bool
  | .block productions => !productions.isEmpty && productions.all isProduction
  | _ => false

end Node

/-- A union is well formed when it has cases, each has symbols, and it is no record alone. -/
theorem RightHandSide.isRightHandSide_union_iff {cases : List (List Symbol)} :
    (RightHandSide.union cases).toNode.isRightHandSide = true ↔
      cases ≠ [] ∧ (∀ symbols ∈ cases, symbols ≠ [] ∧
        ∀ symbol ∈ symbols, symbol.toNode.isSymbol = true) ∧
      Node.isRecordAsUnion (cases.map fun symbols => symbols.map Symbol.toNode) = false := by
  simp only [RightHandSide.toNode, Node.isRightHandSide, Node.isCase, List.isEmpty_map,
    List.all_map, Bool.and_eq_true, Bool.not_eq_true', List.isEmpty_eq_false_iff, List.all_eq_true,
    Function.comp_apply, and_assoc]

/-- A production is well formed when its label, its symbols and its right-hand side are. -/
theorem Production.isProduction_iff {production : Production} :
    production.toNode.isProduction = true ↔ production.label.all isLiteralChar = true ∧
      (∀ n ∈ production.lhs, isName n.name = true) ∧
      production.rhs.toNode.isRightHandSide = true := by
  simp only [Production.toNode, Node.isProduction, Node.isDefinedSymbol, List.all_map,
    Bool.and_eq_true, List.all_eq_true, Function.comp_apply, and_assoc]

/-- A block is well formed when it has productions, all of them well formed. -/
theorem MathBlock.isBlock_iff {block : MathBlock} : block.toNode.isBlock = true ↔
    block.productions ≠ [] ∧ ∀ production ∈ block.productions,
      production.toNode.isProduction = true := by
  simp only [MathBlock.toNode, Node.isBlock, List.isEmpty_map, List.all_map, Bool.and_eq_true,
    Bool.not_eq_true', List.isEmpty_eq_false_iff, List.all_eq_true, Function.comp_apply]

/-! ### What is read -/

/-- Cases become a union, unless they are a single record, which then stands alone. -/
theorem RightHandSide.isRightHandSide_ofCases {cases : List (List Symbol)} (nonempty : cases ≠ [])
    (formed : ∀ symbols ∈ cases, symbols ≠ [] ∧
      ∀ symbol ∈ symbols, symbol.toNode.isSymbol = true) :
    (RightHandSide.ofCases cases).toNode.isRightHandSide = true := by
  by_cases lone : ∃ r, cases = [[.record r]]
  · obtain ⟨r, rfl⟩ := lone
    have symbol := (formed _ List.mem_cons_self).2 _ List.mem_cons_self
    rw [Symbol.isSymbol_record] at symbol
    exact symbol
  · have union : RightHandSide.ofCases cases = .union cases := by
      unfold RightHandSide.ofCases
      split
      · exact absurd ⟨_, rfl⟩ lone
      · rfl
    rw [union, isRightHandSide_union_iff]
    refine ⟨nonempty, formed, ?_⟩
    -- Any other union has more cases, or more symbols, or one that is no record.
    rcases cases with _ | ⟨_ | ⟨symbol, _ | ⟨second, others⟩⟩, _ | ⟨case, more⟩⟩
    case cons.cons.nil.nil =>
      cases symbol with
      | record r => exact absurd ⟨r, rfl⟩ lone
      | _ => rfl
    all_goals simp [Node.isRecordAsUnion]

namespace Parser

variable (limit : Nat)

/-- Cases are read with a symbol at least in each, all of them well formed. -/
theorem gives_unionCases : (unionCases limit).Gives fun cases => cases ≠ [] ∧
    ∀ symbols ∈ cases, symbols ≠ [] ∧ ∀ symbol ∈ symbols, symbol.toNode.isSymbol = true :=
  (gives_symbol limit).many1.separated1

/-- A right-hand side is read well formed, as a record alone is made one. -/
theorem gives_rightHandSide :
    (rightHandSide limit).Gives fun read => read.toNode.isRightHandSide = true := by
  refine .firstOf fun p mem => ?_
  simp only [List.mem_cons, List.not_mem_nil, or_false] at mem
  rcases mem with rfl | rfl
  · refine Gives.map fun cursor next cases run => ?_
    obtain ⟨nonempty, formed⟩ := gives_unionCases limit run
    exact RightHandSide.isRightHandSide_ofCases nonempty formed
  · exact Gives.map (gives_record limit)

/-- Any command may be defined, under its own name. -/
theorem gives_definedSymbol : (definedSymbol limit).Gives fun read => isName read.name = true := by
  refine Gives.map fun cursor next read run => ?_
  exact (Command.wellFormed_iff.1 (gives_command limit run)).1

/-- A command of a given name is read well formed. -/
theorem gives_commandNamed (kind : FaultKind) (name : Text) :
    (commandNamed limit kind name).Gives fun read => read.wellFormed = true :=
  fun _ _ _ run => gives_command limit (commandNamed_eq_ok_iff.1 run).1

/-- The label is the name of the first argument. -/
theorem gives_productionHead :
    (productionHead limit).Gives fun label => label.all isLiteralChar = true := by
  refine (gives_commandNamed limit _ _).judge fun head label formed accepted => ?_
  obtain ⟨-, -, args⟩ := Command.wellFormed_iff.1 formed
  cases args_eq : head.args with
  | nil =>
      rw [args_eq] at accepted
      exact absurd accepted nofun
  | cons arg others =>
      rw [args_eq] at accepted args
      obtain rfl := Except.ok.inj accepted
      exact all_isLiteralChar_name (args arg List.mem_cons_self)

/-- A production is read well formed. -/
theorem gives_production :
    (production limit).Gives fun read => read.toNode.isProduction = true :=
  (gives_productionHead limit).bind fun _ label =>
    (gives_definedSymbol limit).many.bind fun _ lhs =>
    .behind fun _ => (gives_rightHandSide limit).bind fun _ rhs => .behind fun _ =>
      .pure (Production.isProduction_iff.2 ⟨label, lhs, rhs⟩)

/-- The productions of a block are those of its chain, and without any there is no block. -/
theorem gives_blockBody : (blockBody limit).Gives fun read => read.toNode.isBlock = true := by
  intro cursor next block run
  have formed := (items_chain (production limit) cursor).forall_mem
    fun read => gives_production limit read
  -- A chain that fails gives no block at all.
  have closed : closeBlock limit (chain (production limit) cursor) = .ok block next := by
    unfold blockBody at run
    dsimp only at run
    split at run
    · exact run
    · exact absurd run nofun
    · exact absurd run nofun
  unfold closeBlock at closed
  by_cases none : (chain (production limit) cursor).items.isEmpty = true
  · rw [if_pos none] at closed
    exact absurd closed nofun
  · rw [if_neg none] at closed
    obtain ⟨_, after, -, last⟩ := Outcome.bind_eq_ok.1 closed
    obtain ⟨rfl, -⟩ := Outcome.ok.inj last
    refine MathBlock.isBlock_iff.2 ⟨?_, formed⟩
    simpa [Chain.values, List.isEmpty_iff] using none

/-- A block is read well formed, as it is not closed before it has a production. -/
theorem gives_mathBlock : (mathBlock limit).Gives fun read => read.toNode.isBlock = true :=
  .behind fun _ => gives_blockBody limit

end Parser

/-! ### How it is written -/

/-- A right-hand side is written on one line. -/
theorem RightHandSide.isLine_render {rhs : RightHandSide}
    (formed : rhs.toNode.isRightHandSide = true) : rhs.render.isLine = true := by
  cases rhs with
  | record r => exact Record.isLine_render formed
  | union cases =>
      obtain ⟨-, each, -⟩ := isRightHandSide_union_iff.1 formed
      unfold RightHandSide.render Written.union
      refine Text.isLine_intercalate rfl fun case caseMem => ?_
      simp only [List.map_map, List.mem_map, Function.comp_apply] at caseMem
      obtain ⟨symbols, mem, rfl⟩ := caseMem
      refine Text.isLine_intercalate rfl fun piece pieceMem => ?_
      obtain ⟨symbol, symbolMem, rfl⟩ := List.mem_map.1 pieceMem
      exact Symbol.isLine_render ((each symbols mem).2 symbol symbolMem)

/-- A production is written on one line. -/
theorem Production.isLine_render {production : Production}
    (formed : production.toNode.isProduction = true) : production.render.isLine = true := by
  obtain ⟨label, lhs, rhs⟩ := Production.isProduction_iff.1 formed
  have defined : Text.isLine
      (List.intercalate [' '] (production.lhs.map Nonterminal.render)) = true := by
    refine Text.isLine_intercalate rfl fun piece pieceMem => ?_
    obtain ⟨n, mem, rfl⟩ := List.mem_map.1 pieceMem
    exact Nonterminal.isLine_render (all_isLiteralChar_of_isName (lhs n mem))
  unfold Production.render Written.production
  rw [Text.isLine_append, Text.isLine_append, Text.isLine_append, Text.isLine_append,
    isLine_of_literal label, defined, RightHandSide.isLine_render rhs]
  rfl

/-- The line of a production is not empty, if only for the sign between its sides. -/
theorem Production.render_ne_nil (production : Production) : production.render ≠ [] := by
  simp [Production.render, Written.production]

/-- A well-formed block is written with one line for each production. -/
theorem MathBlock.lines_render {block : MathBlock} (formed : block.toNode.isBlock = true) :
    Text.lines block.render = block.productions.map Production.render := by
  obtain ⟨-, each⟩ := MathBlock.isBlock_iff.1 formed
  refine Text.lines_intercalate fun line mem => ?_
  obtain ⟨production, productionMem, rfl⟩ := List.mem_map.1 mem
  exact ⟨Production.isLine_render (each production productionMem), production.render_ne_nil⟩

/-! ### The main result -/

/-- What is read as a block is well formed under every limit, and is written line by line. -/
theorem wellFormed_of_run_mathBlock {limit : Nat} {text rest : Text} {block : MathBlock}
    (run : (Parser.mathBlock limit).run text = .ok (block, rest)) :
    block.toNode.isBlock = true ∧
      Text.lines block.render = block.productions.map Production.render ∧
      (∀ production ∈ block.productions, ∀ c ∈ production.render, isLineBreak c = false) := by
  obtain ⟨next, read, -⟩ := Parser.exists_of_run_eq_ok run
  have formed : block.toNode.isBlock = true := Parser.gives_mathBlock limit read
  refine ⟨formed, MathBlock.lines_render formed, fun production mem c inside => ?_⟩
  obtain ⟨-, each⟩ := MathBlock.isBlock_iff.1 formed
  have line := Production.isLine_render (each production mem)
  simpa using List.all_eq_true.1 line c inside

/-- **What is read as a block is well formed.** It has productions, which define nonterminals with
the names of commands. The right trees stand in each of its places: a union has cases, a case
symbols, a record fields from terminals to nonterminals or vectors, and a record that is the only
case stands alone. All names are literals, so that the block is written with exactly one line for
each production. -/
theorem parseMathBlock_wellFormed (text rest : Text) (block : MathBlock)
    (run : parseMathBlock text = .ok (block, rest)) :
    block.toNode.isBlock = true ∧
      Text.lines block.render = block.productions.map Production.render ∧
      (∀ production ∈ block.productions, ∀ c ∈ production.render, isLineBreak c = false) :=
  wellFormed_of_run_mathBlock run

/-- A block of a record that stands alone, whose names are those of arguments, and of a union. -/
theorem parseMathBlock_wellFormed_escaped :
    let text : Text := "\\begin\x7ba\x7d\\production\x7bp. 1\x7d\\a\\End::=".toList ++
      "\\\x7b\\K\x7ba b\x7d\\vec(\\X\x7b\\q[r]\x7d)\\\x7d\\\\\\production\x7b\x7d::=".toList ++
        "\\\x7b\\A\\b\\\x7d\\c\\to\\d|[\\vec(\\e)]\\\\\\end\x7ba\x7d".toList
    let alone : Production := ⟨"p. 1".toList, [⟨['a'], none⟩, ⟨['E', 'n', 'd'], none⟩],
      .record ⟨[(⟨['a', ' ', 'b'], none⟩, .vector ⟨⟨['q'], none⟩⟩)]⟩⟩
    let union : Production := ⟨[], [], .union
      [[.record ⟨[(⟨['A'], none⟩, .nonterminal ⟨['b'], none⟩)]⟩,
        .arrow ⟨⟨['c'], none⟩, ⟨['d'], none⟩⟩], [.bracedVector ⟨⟨⟨['e'], none⟩⟩⟩]]⟩
    parseMathBlock text = .ok (⟨[alone, union]⟩, []) ∧
      (MathBlock.mk [alone, union]).toNode.isBlock = true ∧
      Text.lines (MathBlock.mk [alone, union]).render = [alone.render, union.render] := by
  intro text alone union
  have read : Parser.mathBlock nestingLimit (.start text)
      = .ok ⟨[alone, union]⟩ ⟨text.length, []⟩ := by
    decide +kernel
  have run : parseMathBlock text = .ok (⟨[alone, union]⟩, []) := by
    unfold parseMathBlock Parser.run
    rw [read]
  obtain ⟨formed, lines, -⟩ := parseMathBlock_wellFormed text [] ⟨[alone, union]⟩ run
  exact ⟨run, formed, lines⟩

end MathGrammar
