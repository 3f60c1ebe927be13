import MathGrammar.Fault.Basic
import MathGrammar.Text.Position
import MathGrammar.Text.Quoted

/-! # Messages

The wording of a fault, and the line of text that shows where it lies. -/

namespace MathGrammar

/-- The kind of mismatch in words. -/
def FaultKind.name : FaultKind → String
  | .general => "syntax error"
  | .unexpectedToken => "unexpected token"
  | .emptyMatch => "empty match"
  | .unclassifiable => "unclassifiable symbol"
  | .missingArgument => "missing argument"

/-- What was wanted, in words. -/
def Expectation.describe : Expectation → String
  | .token literal => String.ofList literal.quoted
  | .command => "a command"
  | .argument => "an argument"
  | .commandNamed name => "\\" ++ String.ofList name
  | .terminal => "a terminal"
  | .nonterminal => "a nonterminal"
  | .grammarSymbol => "a grammar symbol"
  | .fieldValue => "a vector or a nonterminal"
  | .recordField => "a record field"
  | .unionCase => "a union case"
  | .rightHandSide => "a union or a record"
  | .equalSignOrSymbol => "'::=' or a left-hand side symbol"
  | .someProduction => "at least one \\production"
  | .productionLabel => "a production label"
  | .escapedName escape => "a symbol name argument to \\" ++ String.ofList escape
  | .shallowerNesting => "input nested less deeply"
  | .described description => description

namespace Fault

/-- The text found at an offset: its next twelve characters, quoted. -/
def found (text : Text) (offset : Nat) : String :=
  match (text.drop offset).take 12 with
  | [] => "'end of input'"
  | next => String.ofList (Text.quoted next)

/-- The line of the fault. -/
def line (fault : Fault) (text : Text) : Nat := text.lineAt fault.offset

/-- The column of the fault. -/
def column (fault : Fault) (text : Text) : Nat := text.columnAt fault.offset

/-- The fault in words: its kind, its place, what was wanted and what was found. -/
def message (fault : Fault) (text : Text) : String :=
  fault.kind.name ++ " at line " ++ toString (fault.line text) ++ ", column "
    ++ toString (fault.column text) ++ ": expected " ++ fault.expected.describe
    ++ ", found " ++ found text fault.offset

/-- The text around the fault, on its own line and at most `span` characters to either side,
with a caret under the place. -/
def context (fault : Fault) (text : Text) (span : Nat) : Text :=
  let before := Text.lastLine ((text.take fault.offset).drop (fault.offset - span))
  let after := Text.firstLine ((text.drop fault.offset).take span)
  before ++ after ++ '\n' :: (List.replicate (Text.expandedLength 0 before) ' ' ++ ['^', '\n'])

/-- As much of the text around the fault as is shown. -/
def surroundings (fault : Fault) (text : Text) : Text := fault.context text 40

end Fault

end MathGrammar
