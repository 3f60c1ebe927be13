import MathGrammar.Text.Blank

/-! # Lines

The lines of a document, without the characters that end them. -/

namespace MathGrammar

namespace Text

/-- The lines of a text. A return and a line feed together end one line, and what follows the
last line end is a line only when it is not empty. -/
def lines : Text → List Text
  | [] => []
  | '\r' :: '\n' :: rest => [] :: lines rest
  | c :: rest =>
    if isLineBreak c then
      [] :: lines rest
    else
      match lines rest with
      | [] => [[c]]
      | line :: others => (c :: line) :: others

/-- The text with every return, alone or before a line feed, replaced by a line feed. -/
def universalNewlines : Text → Text
  | [] => []
  | '\r' :: '\n' :: rest => '\n' :: universalNewlines rest
  | c :: rest => (if c = '\r' then '\n' else c) :: universalNewlines rest

/-- The text without the blank characters at either end. -/
def trim (text : Text) : Text := dropBlank (dropBlank text).reverse |>.reverse

end Text

end MathGrammar
