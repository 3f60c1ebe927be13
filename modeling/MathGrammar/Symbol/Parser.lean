import MathGrammar.Symbol.Basic
import MathGrammar.Command.Parser
import MathGrammar.Text.LetterCase

/-! # Reading grammar symbols

Whether a command is a terminal or a nonterminal shows in the case of its letters; two escape
commands take any name as an argument instead. The shapes overlap in what they start with, so
they are tried in a fixed order. -/

namespace MathGrammar

/-! ### The names of commands -/

/-- The command whose argument names a terminal. -/
def terminalEscape : Text := ['K']

/-- The command whose argument names a nonterminal. -/
def nonterminalEscape : Text := ['X']

/-- The commands that give a block its structure and never name a symbol. -/
def structuralNames : List Text :=
  [['e', 'n', 'd'], ['p', 'r', 'o', 'd', 'u', 'c', 't', 'i', 'o', 'n']]

namespace Command

/-- The name that an escape command stands for. -/
def escapedName (command : Command) : Except Complaint Text :=
  match command.args with
  | arg :: _ => .ok arg.name
  | [] => .error ⟨.missingArgument, .escapedName command.name⟩

/-- The name of the terminal that the command stands for, if it stands for one: its argument
for the escape command, else its own name when all its letters are upper case. -/
def terminalName (command : Command) : Except Complaint (Option Text) :=
  if command.name = terminalEscape then
    command.escapedName.map some
  else if command.name.lettersUpper then
    .ok (some command.name)
  else
    .ok none

/-- The name of the nonterminal that the command stands for, if it stands for one: its argument
for the escape command, else its own name when all its letters are lower case. -/
def nonterminalName (command : Command) : Except Complaint (Option Text) :=
  if command.name = nonterminalEscape then
    command.escapedName.map some
  else if command.name.lettersLower then
    .ok (some command.name)
  else
    .ok none

/-- The command as a terminal. -/
def toTerminal (command : Command) : Except Complaint Terminal :=
  command.terminalName.bind fun
    | some name => .ok ⟨name, command.repetition⟩
    | none => .error ⟨.unclassifiable, .terminal⟩

/-- The command as a nonterminal. -/
def toNonterminal (command : Command) : Except Complaint Nonterminal :=
  if structuralNames.contains command.name then
    .error ⟨.unclassifiable, .nonterminal⟩
  else
    command.nonterminalName.bind fun
      | some name => .ok ⟨name, command.repetition⟩
      | none => .error ⟨.unclassifiable, .nonterminal⟩

end Command

/-! ### Shapes -/

namespace Parser

variable (limit : Nat)

/-- A terminal. -/
def terminal : Parser Terminal := (command limit).judge Command.toTerminal

/-- A nonterminal. -/
def nonterminal : Parser Nonterminal := (command limit).judge Command.toNonterminal

/-- A vector: its command, and a nonterminal in parentheses. -/
def vector : Parser Vector := do
  let _ ← commandNamed limit .unclassifiable ['v', 'e', 'c']
  token ['('] .inline
  let element ← nonterminal limit
  token [')'] .inline
  return ⟨element⟩

/-- A vector in brackets. -/
def bracedVector : Parser BracedVector := do
  token ['['] .inline
  let inner ← vector limit
  token [']'] .inline
  return ⟨inner⟩

/-- Two nonterminals with an arrow between them. -/
def arrow : Parser Arrow := do
  let source ← nonterminal limit
  let _ ← commandNamed limit .unclassifiable ['t', 'o']
  let target ← nonterminal limit
  return ⟨source, target⟩

/-- The value of a record field. -/
def fieldValue : Parser FieldValue :=
  firstOf [(vector limit).map .vector, (nonterminal limit).map .nonterminal]
    ⟨.unexpectedToken, .fieldValue⟩

/-- A record field, with the separators around it. -/
def recordField : Parser (Terminal × FieldValue) := do
  skip .separators
  let key ← terminal limit
  let value ← fieldValue limit
  skip .separators
  return (key, value)

/-- Fields in braces, separated by commas. -/
def record : Parser Record := do
  token ['\\', '\x7b'] .inline
  let fields ← separated1 (recordField limit) (literal [',']) .recordField
  token ['\\', '\x7d'] .inline
  return ⟨fields⟩

/-- A symbol of any shape. An arrow starts like a nonterminal, and a vector's command would
pass for one, so both come before it. -/
def symbol : Parser Symbol :=
  firstOf
    [(record limit).map .record, (arrow limit).map .arrow, (bracedVector limit).map .bracedVector,
      (vector limit).map .vector, (nonterminal limit).map .nonterminal,
      (terminal limit).map .terminal]
    ⟨.unclassifiable, .grammarSymbol⟩

end Parser

end MathGrammar
