import MathGrammar.Text.Basic

/-! # Blank characters

The characters that only take up room, and those of them that end a line. -/

namespace MathGrammar

/-- Space, the control characters that move the cursor or separate records, and the space
separators of Unicode. -/
def isBlank (c : Char) : Bool :=
  let n := c.toNat
  (0x09 ≤ n && n ≤ 0x0D) || (0x1C ≤ n && n ≤ 0x20) || n == 0x85 || n == 0xA0 || n == 0x1680
    || (0x2000 ≤ n && n ≤ 0x200A) || n == 0x2028 || n == 0x2029 || n == 0x202F || n == 0x205F
    || n == 0x3000

/-- The characters that end a line: all that move down or separate larger units. -/
def isLineBreak (c : Char) : Bool :=
  let n := c.toNat
  (0x0A ≤ n && n ≤ 0x0D) || (0x1C ≤ n && n ≤ 0x1E) || n == 0x85 || n == 0x2028 || n == 0x2029

/-- The text without the blank characters in front. -/
def Text.dropBlank (text : Text) : Text := text.dropWhile isBlank

/-- Whether every character is blank, as in an empty line. -/
def Text.allBlank (text : Text) : Bool := text.all isBlank

end MathGrammar
