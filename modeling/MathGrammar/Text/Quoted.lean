import MathGrammar.Text.Printable

/-! # Quoted text

Text as it is shown inside a message: in single quotes, or in double quotes when it holds a
single one and no double one, with an escape for each character that would not show. -/

namespace MathGrammar

namespace Text

/-- The last `count` hexadecimal digits of a number. -/
def hexDigits : (count : Nat) → Nat → Text
  | 0, _ => []
  | count + 1, n => hexDigits count (n / 16) ++ [Nat.digitChar (n % 16)]

/-- The character as it is shown between the given quotes. -/
def escape (quoteMark c : Char) : Text :=
  if c = quoteMark || c = '\\' then ['\\', c]
  else if c = '\n' then ['\\', 'n']
  else if c = '\r' then ['\\', 'r']
  else if c = '\t' then ['\\', 't']
  else if isPrintable c then [c]
  else if c.toNat < 0x100 then '\\' :: 'x' :: hexDigits 2 c.toNat
  else if c.toNat < 0x10000 then '\\' :: 'u' :: hexDigits 4 c.toNat
  else '\\' :: 'U' :: hexDigits 8 c.toNat

/-- The quote that stands around the text. -/
def quoteMark (text : Text) : Char :=
  if text.contains '\'' && !text.contains '"' then '"' else '\''

/-- The text in quotes. -/
def quoted (text : Text) : Text :=
  quoteMark text :: (text.flatMap (escape (quoteMark text)) ++ [quoteMark text])

end Text

end MathGrammar
