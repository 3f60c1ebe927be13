import MathGrammar.Text.Basic

/-! # Faults

A fault is a local mismatch: the offset at which it was noticed, what was wanted there, and
the kind of mismatch. Only the kind decides whether another alternative may be tried. -/

namespace MathGrammar

/-- The ways in which text can fail to match. -/
inductive FaultKind where
  /-- A mismatch of no particular kind. -/
  | general
  /-- The text at hand is not the token that was wanted. -/
  | unexpectedToken
  /-- A repetition that needs at least one item found none. -/
  | emptyMatch
  /-- A command was read, but it is not the kind of symbol that was wanted. -/
  | unclassifiable
  /-- A command was used without the argument that gives it a meaning. -/
  | missingArgument
deriving DecidableEq, Repr

/-- What was wanted where a mismatch was noticed. -/
inductive Expectation where
  /-- The given characters. -/
  | token (literal : Text)
  /-- Any command. -/
  | command
  /-- The inside of a braced argument. -/
  | argument
  /-- The command of the given name. -/
  | commandNamed (name : Text)
  /-- A terminal symbol. -/
  | terminal
  /-- A nonterminal symbol. -/
  | nonterminal
  /-- A symbol of any shape. -/
  | grammarSymbol
  /-- The value of a record field. -/
  | fieldValue
  /-- A key with its value. -/
  | recordField
  /-- One side of a bar. -/
  | unionCase
  /-- A right-hand side. -/
  | rightHandSide
  /-- The sign between the two sides of a production, or one more symbol before it. -/
  | equalSignOrSymbol
  /-- At least one production. -/
  | someProduction
  /-- The label of a production. -/
  | productionLabel
  /-- The name that the given escape command stands for. -/
  | escapedName (escape : Text)
  /-- Commands nested within the limit. -/
  | shallowerNesting
  /-- Anything else, as described. -/
  | described (description : String)
deriving DecidableEq, Repr

/-- A mismatch whose place is not yet known. -/
structure Complaint where
  /-- The kind of mismatch. -/
  kind : FaultKind
  /-- What was wanted. -/
  expected : Expectation
deriving DecidableEq, Repr

/-- A mismatch at an offset of the text. -/
structure Fault extends Complaint where
  /-- Where the mismatch was noticed. -/
  offset : Nat
deriving DecidableEq, Repr

/-- The complaint, noticed at `offset`. -/
def Complaint.located (complaint : Complaint) (offset : Nat) : Fault :=
  { complaint with offset }

/-- Whether another alternative may be tried after this mismatch. A missing argument means
that a command was misused, whatever else the text could be read as. -/
def FaultKind.recoverable : FaultKind → Bool
  | .missingArgument => false
  | _ => true

/-- Whether another alternative may be tried after this fault. -/
def Fault.recoverable (fault : Fault) : Bool := fault.kind.recoverable

end MathGrammar
