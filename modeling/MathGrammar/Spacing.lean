import MathGrammar.Parser.Basic
import MathGrammar.Text.Blank

/-! # Spacing

Tokens that only space or align a formula: blank characters, the alignment marks, and the
spacing commands. A line break counts as one of them between productions, but not inside a
production, where it is the end. -/

namespace MathGrammar

/-- Which tokens count as spacing. -/
inductive Spacing where
  /-- Those that stay on the line. -/
  | inline
  /-- Those, and line breaks. -/
  | separators
deriving DecidableEq, Repr

namespace Spacing

/-- Whether the text goes on with a letter, so that a command in front of it is longer. -/
def startsWithLetter : Text → Bool
  | c :: _ => c.isAlpha
  | [] => false

/-- The length of the spacing token after a backslash, zero when there is none. A spacing word
is a token only where no letter follows. -/
def lengthAfterBackslash (spacing : Spacing) : Text → Nat
  | 'q' :: 'u' :: 'a' :: 'd' :: rest => if startsWithLetter rest then 0 else 4
  | 'q' :: 'q' :: 'u' :: 'a' :: 'd' :: rest => if startsWithLetter rest then 0 else 5
  | '\\' :: _ => if spacing = .separators then 1 else 0
  | c :: _ => if [' ', ',', ':', ';', '!'].contains c then 1 else 0
  | [] => 0

/-- The length of the spacing token in front, zero when there is none. -/
def tokenLength (spacing : Spacing) : Text → Nat
  | '\\' :: rest => match spacing.lengthAfterBackslash rest with
    | 0 => 0
    | n + 1 => n + 2
  | c :: _ => if isBlank c || c == '&' || c == '~' then 1 else 0
  | [] => 0

/-- The length of the longest run of spacing tokens in front. -/
def runLength (spacing : Spacing) (text : Text) : Nat :=
  match spacing.tokenLength text, text with
  | 0, _ => 0
  | _, [] => 0
  | n + 1, _ :: rest => n + 1 + runLength spacing (rest.drop n)
termination_by text.length
decreasing_by simp only [List.length_cons, List.length_drop]; omega

end Spacing

namespace Cursor

/-- The place after the spacing. -/
def skip (spacing : Spacing) (cursor : Cursor) : Cursor :=
  cursor.advance (spacing.runLength cursor.rest)

end Cursor

namespace Parser

/-- Read spacing, perhaps none. -/
def skip (spacing : Spacing) : Parser Unit := fun cursor => .ok () (cursor.skip spacing)

/-- Read the given characters. -/
def literal (characters : Text) : Parser Unit := fun cursor =>
  if characters.isPrefixOf cursor.rest then
    .ok () (cursor.advance characters.length)
  else
    .fail ⟨⟨.unexpectedToken, .token characters⟩, cursor.offset⟩

/-- Read the given characters and the spacing after them. -/
def token (characters : Text) (spacing : Spacing) : Parser Unit := do
  literal characters
  skip spacing

end Parser

/-- The text without the separators in front. -/
def Text.dropSeparators (text : Text) : Text :=
  text.drop (Spacing.separators.runLength text)

end MathGrammar
