import MathGrammar.Command.Basic
import MathGrammar.Parser.Chain
import MathGrammar.Spacing

/-! # Reading commands

A command in the braces of an argument is read like any other, so commands nest. `limit` says
how many may be open at once; a command beyond it ends the run as too deep. Braces inside a
literal argument do not count. -/

namespace MathGrammar

namespace Parser

/-- End the run because of its nesting. -/
def giveUp {α : Type} : Parser α := fun _ => .tooDeep

/-- The backslash and the name of a command. -/
def commandName : Parser Text := fun cursor =>
  match cursor.rest with
  | '\\' :: rest =>
    let name := rest.takeWhile Char.isAlphanum
    if name.isEmpty then
      .fail ⟨⟨.unexpectedToken, .command⟩, cursor.offset⟩
    else
      .ok name (cursor.advance (name.length + 1))
  | _ => .fail ⟨⟨.unexpectedToken, .command⟩, cursor.offset⟩

/-- The parameters in brackets, separated by commas. A bracket that does not open such a list
is left unread. -/
def params : Parser (List Text) := fun cursor =>
  match cursor.rest with
  | '[' :: rest =>
    let inside := rest.takeWhile fun c => c.isAlphanum || c == ','
    let names := Text.splitOn ',' inside
    if names.all (fun name => !name.isEmpty) && [']'].isPrefixOf (rest.drop inside.length) then
      .ok names (cursor.advance (inside.length + 2))
    else
      .ok [] cursor
  | _ => .ok [] cursor

/-- The mark of repetition, if there is one. -/
def repetition : Parser (Option Repetition) := fun cursor =>
  match Repetition.all.find? fun kind => kind.mark.isPrefixOf cursor.rest with
  | some kind => .ok (some kind) (cursor.advance kind.mark.length)
  | none => .ok none cursor

end Parser

/-! ### Literal arguments -/

/-- The characters of a literal argument, braces apart. -/
def isLiteralChar (c : Char) : Bool :=
  c.isAlphanum || c == '.' || c == '/' || c == '-' || c == '#' || c == ' '

/-- The characters up to the brace that closes the literal, and how many characters that is with
the brace. Braces inside must balance and are dropped; `depth` of them are open. -/
def scanLiteral? : (depth : Nat) → Text → Option (Text × Nat)
  | _, [] => none
  | depth, c :: rest =>
    if c = '\x7b' then
      (scanLiteral? (depth + 1) rest).map fun (content, length) => (content, length + 1)
    else if c = '\x7d' then
      match depth with
      | 0 => some ([], 1)
      | outer + 1 => (scanLiteral? outer rest).map fun (content, length) => (content, length + 1)
    else if isLiteralChar c then
      (scanLiteral? depth rest).map fun (content, length) => (c :: content, length + 1)
    else
      none

namespace Parser

/-- The rest of a literal argument after its opening brace. -/
def literalArgument : Parser Argument := fun cursor =>
  match scanLiteral? 0 cursor.rest with
  | some (content, length) => .ok (.literal content) (cursor.advance length)
  | none => .fail ⟨⟨.unexpectedToken, .token ['\x7d']⟩, cursor.offset⟩

/-- The rest of an argument that holds a command, after its opening brace. -/
def nestedArgument (command : Parser Command) : Parser Argument := do
  let inner ← command
  literal ['\x7d']
  return .nested inner

/-- An argument in braces, whose nested commands `command` reads. -/
def argument (command : Parser Command) : Parser Argument := do
  literal ['\x7b']
  firstOf [nestedArgument command, literalArgument] ⟨.unexpectedToken, .argument⟩

/-- A command with its parameters, arguments and repetition, and the spacing after it. At most
`limit` commands may be open at once. -/
def command : (limit : Nat) → Parser Command
  | 0 => do
    let _ ← commandName
    giveUp
  | limit + 1 => do
    let name ← commandName
    let params ← params
    let args ← many (argument (command limit))
    let repetition ← repetition
    skip .inline
    return ⟨name, params, args, repetition⟩

/-- A command of the given name; any other is a mismatch of the given kind. -/
def commandNamed (limit : Nat) (kind : FaultKind) (name : Text) : Parser Command :=
  (command limit).judge fun read =>
    if read.name = name then .ok read else .error ⟨kind, .commandNamed name⟩

end Parser

end MathGrammar
