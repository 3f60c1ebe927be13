import MathGrammar.Production.Basic
import MathGrammar.Symbol.Parser

/-! # Reading productions

A production is its labelled command, the symbols it defines, the sign between the two sides,
the right-hand side, and a line break. -/

namespace MathGrammar

/-- Cases as a right-hand side: a record that stands alone is no union. -/
def RightHandSide.ofCases : List (List Symbol) → RightHandSide
  | [[.record r]] => .record r
  | cases => .union cases

namespace Parser

/-! ### Signs -/

/-- The sign between the two sides of a production, and the separators after it. -/
def equalSign : Parser Unit := token [':', ':', '='] .separators

/-- The bar between two cases, with the separators around it. -/
def bar : Parser Unit := do
  skip .separators
  token ['|'] .separators

/-- The line break that ends a production, with the separators after it. -/
def lineBreak : Parser Unit := do
  skip .inline
  token ['\\', '\\'] .separators

variable (limit : Nat)

/-! ### The two sides -/

/-- One case of a union: a sequence of symbols. -/
def unionCase : Parser (List Symbol) := many1 (symbol limit) .grammarSymbol

/-- Cases with bars between them. -/
def unionCases : Parser (List (List Symbol)) := separated1 (unionCase limit) bar .unionCase

/-- A right-hand side. A record that more symbols follow is the first symbol of a case, so the
cases are tried first. -/
def rightHandSide : Parser RightHandSide :=
  firstOf [(unionCases limit).map .ofCases, (record limit).map .record]
    ⟨.unclassifiable, .rightHandSide⟩

/-- A symbol on the left-hand side, where any command names one. -/
def definedSymbol : Parser Nonterminal :=
  (command limit).map fun read => ⟨read.name, read.repetition⟩

/-! ### Whole productions -/

/-- The command that begins a production, with the label that it carries. -/
def productionHead : Parser Text := do
  (commandNamed limit .unexpectedToken ['p', 'r', 'o', 'd', 'u', 'c', 't', 'i', 'o', 'n']).judge
    fun head => match head.args with
      | arg :: _ => .ok arg.name
      | [] => .error ⟨.missingArgument, .productionLabel⟩

/-- A production, with the separators after its line break. -/
def production : Parser Production := do
  let label ← productionHead limit
  let lhs ← many (definedSymbol limit)
  equalSign.orElse (complain ⟨.unexpectedToken, .equalSignOrSymbol⟩)
  let rhs ← rightHandSide limit
  lineBreak
  return ⟨label, lhs, rhs⟩

end Parser

end MathGrammar
