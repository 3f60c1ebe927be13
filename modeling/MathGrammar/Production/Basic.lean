import MathGrammar.Symbol.Basic

/-! # Productions and blocks

A production defines a nonterminal by a union of cases or by a single record, and a block is a
sequence of productions. -/

namespace MathGrammar

/-- What a production defines its symbols to be. -/
inductive RightHandSide where
  /-- One of several cases, each a sequence of symbols. -/
  | union (cases : List (List Symbol))
  /-- A record alone. -/
  | record (record : Record)
deriving DecidableEq, Repr

/-- A labelled definition of symbols. -/
structure Production where
  /-- The label, as shown to a reader. -/
  label : Text
  /-- The symbols that are defined. -/
  lhs : List Nonterminal
  /-- What they are. -/
  rhs : RightHandSide
deriving DecidableEq, Repr

/-- The productions of one block. -/
structure MathBlock where
  /-- The productions, in order. -/
  productions : List Production
deriving DecidableEq, Repr

/-! ### Written forms -/

namespace Written

/-- Cases with a bar between them. -/
def union (cases : List (List Text)) : Text :=
  List.intercalate [' ', '|', ' '] (cases.map (List.intercalate [' ']))

/-- A definition with its label. -/
def production (label : Text) (lhs : List Text) (rhs : Text) : Text :=
  label ++ [':', ' '] ++ List.intercalate [' '] lhs ++ [' ', ':', ':', '=', ' '] ++ rhs

/-- One production a line. -/
def block (productions : List Text) : Text := List.intercalate ['\n'] productions

end Written

/-- The right-hand side as it is written. -/
def RightHandSide.render : RightHandSide → Text
  | .union cases => Written.union (cases.map fun symbols => symbols.map Symbol.render)
  | .record r => r.render

/-- The production as it is shown. -/
def Production.render (production : Production) : Text :=
  Written.production production.label (production.lhs.map Nonterminal.render)
    production.rhs.render

/-- The block as it is shown. -/
def MathBlock.render (block : MathBlock) : Text :=
  Written.block (block.productions.map Production.render)

end MathGrammar
