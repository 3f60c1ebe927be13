import MathGrammar.Command.Basic

/-! # Grammar symbols

Terminals and nonterminals, and the shapes built from them: records, vectors, braced vectors
and arrows. Shapes hold symbols directly and do not nest any further. -/

namespace MathGrammar

/-- A symbol that stands for itself. -/
structure Terminal where
  /-- The name, without the backslash. -/
  name : Text
  /-- How often it occurs. -/
  repetition : Option Repetition
deriving DecidableEq, Repr

/-- A symbol that productions define. -/
structure Nonterminal where
  /-- The name, without the backslash. -/
  name : Text
  /-- How often it occurs. -/
  repetition : Option Repetition
deriving DecidableEq, Repr

/-- A vector of what a nonterminal stands for. -/
structure Vector where
  /-- The elements. -/
  element : Nonterminal
deriving DecidableEq, Repr

/-- A vector in brackets. -/
structure BracedVector where
  /-- What stands in the brackets. -/
  vector : Vector
deriving DecidableEq, Repr

/-- A mapping between two nonterminals. -/
structure Arrow where
  /-- Where it starts. -/
  source : Nonterminal
  /-- Where it leads. -/
  target : Nonterminal
deriving DecidableEq, Repr

/-- The value of a record field. -/
inductive FieldValue where
  /-- A vector. -/
  | vector (vector : Vector)
  /-- A nonterminal. -/
  | nonterminal (nonterminal : Nonterminal)
deriving DecidableEq, Repr

/-- Named fields, in the order in which they are written. -/
structure Record where
  /-- Each key with its value. -/
  fields : List (Terminal × FieldValue)
deriving DecidableEq, Repr

/-- A grammar symbol of any shape. -/
inductive Symbol where
  /-- A record. -/
  | record (record : Record)
  /-- An arrow. -/
  | arrow (arrow : Arrow)
  /-- A vector in brackets. -/
  | bracedVector (vector : BracedVector)
  /-- A vector. -/
  | vector (vector : Vector)
  /-- A nonterminal. -/
  | nonterminal (nonterminal : Nonterminal)
  /-- A terminal. -/
  | terminal (terminal : Terminal)
deriving DecidableEq, Repr

/-! ### Written forms -/

namespace Written

/-- A name with its repetition. -/
def name (name : Text) (repetition : Option Repetition) : Text :=
  '\\' :: (name ++ Repetition.suffix repetition)

/-- Fields in braces. -/
def record (fields : List (Text × Text)) : Text :=
  ['\\', '\x7b'] ++ List.intercalate [',', ' '] (fields.map fun (key, value) => key ++ ' ' :: value)
    ++ ['\\', '\x7d']

/-- A vector of the given elements. -/
def vector (element : Text) : Text :=
  ['\\', 'v', 'e', 'c', '('] ++ element ++ [')']

/-- A vector in brackets. -/
def bracedVector (vector : Text) : Text := '[' :: (vector ++ [']'])

/-- An arrow between two symbols. -/
def arrow (source target : Text) : Text :=
  source ++ [' ', '\\', 't', 'o', ' '] ++ target

end Written

/-- The terminal as it is written. -/
def Terminal.render (terminal : Terminal) : Text :=
  Written.name terminal.name terminal.repetition

/-- The nonterminal as it is written. -/
def Nonterminal.render (nonterminal : Nonterminal) : Text :=
  Written.name nonterminal.name nonterminal.repetition

/-- The vector as it is written. -/
def Vector.render (vector : Vector) : Text := Written.vector vector.element.render

/-- The braced vector as it is written. -/
def BracedVector.render (braced : BracedVector) : Text :=
  Written.bracedVector braced.vector.render

/-- The arrow as it is written. -/
def Arrow.render (arrow : Arrow) : Text :=
  Written.arrow arrow.source.render arrow.target.render

/-- The value of a field as it is written. -/
def FieldValue.render : FieldValue → Text
  | .vector v => v.render
  | .nonterminal n => n.render

/-- The record as it is written. -/
def Record.render (record : Record) : Text :=
  Written.record (record.fields.map fun (key, value) => (key.render, value.render))

/-- The symbol as it is written. -/
def Symbol.render : Symbol → Text
  | .record r => r.render
  | .arrow a => a.render
  | .bracedVector b => b.render
  | .vector v => v.render
  | .nonterminal n => n.render
  | .terminal t => t.render

end MathGrammar
