import MathGrammar.Text.Digit

/-! # Wrapping

Breaking running text into lines of limited width. A line may break at a space, after a hyphen
that joins letters, and before a dash; a piece that is longer than a line is cut. -/

namespace MathGrammar

namespace Text

/-! ### Pieces -/

/-- The characters that count as part of a word for the breaks around dashes. -/
def isWordOrPunctuation (c : Char) : Bool :=
  isWordChar c || ['!', '"', '\'', '&', '.', ',', '?'].contains c

/-- The word characters that are no digits. -/
def isWordLetter (c : Char) : Bool := isWordChar c && !isDecimalDigit c

/-- Whether a dash of two hyphens or more starts the text and a word follows it. -/
def startsWithDash (text : Text) : Bool :=
  2 ≤ (text.takeWhile (· == '-')).length &&
    match text.dropWhile (· == '-') with
    | c :: _ => isWordChar c
    | [] => false

/-- Whether a line may break after a hyphen, given the characters before the hyphen, the last of
them first, and those after it. -/
def breaksAfterHyphen (before after : Text) : Bool :=
  let joined := match before with
    | a :: '-' :: b :: _ => isWordLetter a && isWordLetter b
    | a :: b :: _ => isWordLetter a && isWordLetter b
    | _ => false
  let goesOn := match after with
    | a :: '-' :: b :: _ => isWordLetter a && isWordLetter b
    | a :: b :: _ => isWordLetter a && isWordLetter b
    | _ => false
  joined && goesOn

/-- The pieces that lines may break between. `before` is the text before this place, `piece` what
has been read of the current piece, both with the last character first; `dash` tells that the
piece is a dash. -/
def pieces (before piece : Text) (dash : Bool) : Text → List Text
  | [] => if piece.isEmpty then [] else [piece.reverse]
  | c :: rest =>
    let wordBefore := match before with
      | a :: _ => isWordOrPunctuation a
      | [] => false
    let close (others : List Text) : List Text :=
      if piece.isEmpty then others else piece.reverse :: others
    if c = ' ' then
      close ([c] :: pieces (c :: before) [] false rest)
    else if dash && c = '-' then
      pieces (c :: before) (c :: piece) true rest
    else if dash then
      close (pieces (c :: before) [c] false rest)
    else if wordBefore && startsWithDash (c :: rest) then
      close (pieces (c :: before) [c] true rest)
    else if c = '-' && !piece.isEmpty && breaksAfterHyphen before rest then
      (c :: piece).reverse :: pieces (c :: before) [] false rest
    else
      pieces (c :: before) (c :: piece) false rest

/-! ### Lines -/

/-- The line without the space at its end. -/
def dropLastSpace (line : Text) : Text :=
  if line.getLast? = some ' ' then line.dropLast else line

/-- Where a piece is cut that is longer than the `room` left: after its last hyphen within the
room, if anything but hyphens is before it, and else where the room ends. -/
def cutLength (room : Nat) (piece : Text) : Nat :=
  let front := piece.take room
  let tail := (front.reverse.takeWhile (· != '-')).length
  let upToHyphen := front.length - tail
  if 2 ≤ upToHyphen && (front.take (upToHyphen - 1)).any (· != '-') then upToHyphen
  else min room piece.length

/-- Fill lines with pieces, the first of them after `line`. A line that is already full when a
piece has to be cut keeps the space at its end. -/
def fillLines (width : Nat) (line : Text) : List Text → List Text
  | [] => if line.isEmpty then [] else [dropLastSpace line]
  | piece :: rest =>
    if line.length + piece.length ≤ width then
      fillLines width (line ++ piece) rest
    else if width < piece.length then
      let cut := cutLength (width - line.length) piece
      if cut = 0 then
        if line.isEmpty then piece :: fillLines width [] rest
        else line :: fillLines width [] (piece :: rest)
      else
        dropLastSpace (line ++ piece.take cut) :: fillLines width [] (piece.drop cut :: rest)
    else
      dropLastSpace line :: fillLines width (if piece = [' '] then [] else piece) rest
termination_by pieces => (pieces.flatten.length + pieces.length, line.length)
decreasing_by
  · exact Prod.Lex.left _ _ (by
      simp only [List.flatten_cons, List.length_append, List.length_cons]; omega)
  · exact Prod.Lex.left _ _ (by
      simp only [List.flatten_cons, List.length_append, List.length_cons]; omega)
  · exact Prod.Lex.right _ (List.length_pos_iff.2 (mt List.isEmpty_iff.2 ‹_›))
  · exact Prod.Lex.left _ _ (by
      simp only [List.flatten_cons, List.length_append, List.length_cons, List.length_drop]; omega)
  · exact Prod.Lex.left _ _ (by
      simp only [List.flatten_cons, List.length_append, List.length_cons]; omega)

/-- The text in lines of at most `width` characters. -/
def wrap (width : Nat) (text : Text) : List Text := fillLines width [] (pieces [] [] false text)

end Text

end MathGrammar
