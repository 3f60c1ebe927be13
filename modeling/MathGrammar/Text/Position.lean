import MathGrammar.Text.Basic

/-! # Lines and columns of offsets

A line ends at a line feed and at nothing else. Lines and columns count from one, and an offset
past the end of the text still has a column, as if the last line went on. -/

namespace MathGrammar

namespace Text

/-- The part of the text after its last line feed. -/
def lastLine (text : Text) : Text :=
  (text.reverse.takeWhile (· != '\n')).reverse

/-- The part of the text before its first line feed. -/
def firstLine (text : Text) : Text := text.takeWhile (· != '\n')

/-- The line of an offset. -/
def lineAt (text : Text) (offset : Nat) : Nat := (text.take offset).count '\n' + 1

/-- The offset at which the line of an offset starts. -/
def lineStart (text : Text) (offset : Nat) : Nat :=
  (text.take offset).length - (lastLine (text.take offset)).length

/-- The column of an offset. -/
def columnAt (text : Text) (offset : Nat) : Nat := offset - text.lineStart offset + 1

/-- The number of characters of the text once its tabs are spaces. -/
def expandedLength : (column : Nat) → Text → Nat
  | _, [] => 0
  | column, c :: rest =>
    if c = '\t' then 8 - column % 8 + expandedLength (column + (8 - column % 8)) rest
    else if c = '\n' || c = '\r' then 1 + expandedLength 0 rest
    else 1 + expandedLength (column + 1) rest

end Text

end MathGrammar
