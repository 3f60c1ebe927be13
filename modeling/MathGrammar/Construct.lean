import MathGrammar.Node
import MathGrammar.WholeText

/-! # Constructs

The constructs of the notation by name, each with its reader. -/

namespace MathGrammar

/-- The constructs that can be read on their own. -/
inductive Construct where
  /-- A command. -/
  | command
  /-- An argument of a command. -/
  | argument
  /-- A mark of repetition, or nothing. -/
  | repetition
  /-- A terminal. -/
  | terminal
  /-- A nonterminal. -/
  | nonterminal
  /-- A record. -/
  | record
  /-- A vector. -/
  | vector
  /-- A vector in brackets. -/
  | bracedVector
  /-- An arrow. -/
  | arrow
  /-- A symbol. -/
  | symbol
  /-- Cases with bars between them. -/
  | union
  /-- A right-hand side. -/
  | rightHandSide
  /-- A production. -/
  | production
  /-- A block. -/
  | mathBlock
  /-- The sign between the sides of a production. -/
  | equalSign
  /-- The bar between two cases. -/
  | bar
  /-- The line break after a production. -/
  | lineBreak
deriving DecidableEq, Repr

/-- What reading a construct gives. -/
inductive Reading where
  /-- A tree. -/
  | node (node : Node)
  /-- A mark of repetition, or its absence. -/
  | repetition (repetition : Option Repetition)
  /-- Nothing but the place after it. -/
  | nothing
deriving DecidableEq

namespace Construct

/-- The reader of a construct. -/
def parser (limit : Nat) : Construct → Parser Reading
  | .command => (Parser.command limit).map fun c => .node (.command c)
  | .argument => (Parser.argument (Parser.command limit)).map fun a => .node (.argument a)
  | .repetition => Parser.repetition.map .repetition
  | .terminal => (Parser.terminal limit).map fun t => .node (.terminal t)
  | .nonterminal => (Parser.nonterminal limit).map fun n => .node (.nonterminal n)
  | .record => (Parser.record limit).map fun r => .node r.toNode
  | .vector => (Parser.vector limit).map fun v => .node v.toNode
  | .bracedVector => (Parser.bracedVector limit).map fun b => .node b.toNode
  | .arrow => (Parser.arrow limit).map fun a => .node a.toNode
  | .symbol => (Parser.symbol limit).map fun s => .node s.toNode
  | .union => (Parser.unionCases limit).map fun u => .node (RightHandSide.union u).toNode
  | .rightHandSide => (Parser.rightHandSide limit).map fun r => .node r.toNode
  | .production => (Parser.production limit).map fun p => .node p.toNode
  | .mathBlock => (Parser.mathBlock limit).map fun b => .node b.toNode
  | .equalSign => Parser.equalSign.map fun _ => .nothing
  | .bar => Parser.bar.map fun _ => .nothing
  | .lineBreak => Parser.lineBreak.map fun _ => .nothing

/-- Whether the construct starts with spacing, which never lies beyond the end of a text. -/
def startsWithSpacing : Construct → Bool
  | .mathBlock | .bar | .lineBreak => true
  | _ => false

/-- Read the construct at an offset. -/
def readAt (construct : Construct) (text : Text) (offset : Nat) : Except Fault (Reading × Nat) :=
  (construct.parser nestingLimit).runAt text
    (if construct.startsWithSpacing then min offset text.length else offset)

end Construct

end MathGrammar
