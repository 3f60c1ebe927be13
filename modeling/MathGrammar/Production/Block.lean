import MathGrammar.Production.Parser

/-! # Reading blocks

A block is a chain of productions between its opening and its closing command. What follows the
chain must close the block; when it does not, a production that was begun there and broke off
further on explains the failure better than the missing closing command. -/

namespace MathGrammar

/-- The fault that stopped the chain when it lies beyond the chain's end, otherwise the given
one. -/
def Chain.deeperFault {α : Type} (chain : Chain α) (fallback : Fault) : Fault :=
  match chain.stop with
  | .fault fault => if chain.final.offset < fault.offset then fault else fallback
  | _ => fallback

/-- Of the two faults one is put in front. -/
theorem Chain.deeperFault_eq_or {α : Type} (chain : Chain α) (fallback : Fault) :
    chain.deeperFault fallback = fallback ∨
      ∃ fault, chain.stop = .fault fault ∧ chain.deeperFault fallback = fault := by
  unfold deeperFault
  cases chain.stop with
  | fault fault =>
      by_cases deeper : chain.final.offset < fault.offset
      · exact .inr ⟨fault, rfl, if_pos deeper⟩
      · exact .inl (if_neg deeper)
  | tooDeep => exact .inl rfl
  | stalled => exact .inl rfl

namespace Parser

variable (limit : Nat)

/-- The separators and the command that open a block. -/
def blockHead : Parser Unit := do
  skip .separators
  let _ ← commandNamed limit .unexpectedToken ['b', 'e', 'g', 'i', 'n']
  return ()

/-- The command that closes a block, and the separators after it. -/
def blockEnd : Parser Unit := do
  let _ ← commandNamed limit .unexpectedToken ['e', 'n', 'd']
  skip .separators

/-- The rest of a block after its productions. -/
def closeBlock (productions : Chain Production) : Outcome MathBlock :=
  let block : MathBlock := ⟨productions.values⟩
  if productions.items.isEmpty then
    .fail
      (productions.deeperFault ⟨⟨.emptyMatch, .someProduction⟩, productions.final.offset⟩)
  else
    ((blockEnd limit productions.final).mapFault productions.deeperFault).bind fun _ next =>
      .ok block next

/-- The productions of a block and the command that closes it. -/
def blockBody : Parser MathBlock := fun cursor =>
  let productions := chain (production limit) cursor
  match productions.toOutcome with
  | .ok _ _ => closeBlock limit productions
  | .fail fault => .fail fault
  | .tooDeep => .tooDeep

/-- A block, with the separators around it. -/
def mathBlock : Parser MathBlock := do
  blockHead limit
  blockBody limit

end Parser

end MathGrammar
