/-! # Text

Source text is a list of code points, and every offset, column and length of this library
counts code points. Strings appear only where something is shown to a reader. -/

namespace MathGrammar

/-- Source text, one element for each code point. -/
abbrev Text := List Char

namespace Text

/-- The pieces of the text between the occurrences of `separator`, one more than there are
occurrences. -/
def splitOn (separator : Char) : Text → List Text
  | [] => [[]]
  | c :: rest =>
    if c = separator then [] :: splitOn separator rest
    else match splitOn separator rest with
      | [] => [[c]]
      | piece :: pieces => (c :: piece) :: pieces

end Text

end MathGrammar
