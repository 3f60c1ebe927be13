import MathGrammar.Text.Basic

/-! # Decoding UTF-8

Each character is one to four bytes, and its first byte says how many. Overlong forms, surrogates
and code points beyond the last one are excluded by the range of the second byte. -/

namespace MathGrammar

namespace Utf8

/-- What the first byte of a character demands of the bytes after it. -/
structure Lead where
  /-- The number of bytes that follow. -/
  following : Nat
  /-- The least second byte. -/
  low : UInt8
  /-- The greatest second byte. -/
  high : UInt8
  /-- The bits that the first byte contributes. -/
  bits : Nat
deriving DecidableEq, Repr

/-- What a first byte demands, unless no character starts with it. -/
def lead? (byte : UInt8) : Option Lead :=
  if byte < 0x80 then some ⟨0, 0, 0, byte.toNat⟩
  else if byte < 0xC2 then none
  else if byte < 0xE0 then some ⟨1, 0x80, 0xBF, byte.toNat - 0xC0⟩
  else if byte < 0xF0 then
    some ⟨2, if byte = 0xE0 then 0xA0 else 0x80, if byte = 0xED then 0x9F else 0xBF,
      byte.toNat - 0xE0⟩
  else if byte < 0xF5 then
    some ⟨3, if byte = 0xF0 then 0x90 else 0x80, if byte = 0xF4 then 0x8F else 0xBF,
      byte.toNat - 0xF0⟩
  else none

/-- Why bytes are not the text of anything. -/
inductive Reason where
  /-- No character starts with this byte. -/
  | invalidStart
  /-- A byte that should continue a character does not. -/
  | invalidContinuation
  /-- The bytes end inside a character. -/
  | unexpectedEnd
deriving DecidableEq, Repr

/-- A failure to decode. -/
structure Malformed where
  /-- The position of the character that fails. -/
  position : Nat
  /-- Its first byte. -/
  byte : UInt8
  /-- The number of bytes that are at fault. -/
  length : Nat
  /-- What is wrong with them. -/
  reason : Reason
deriving DecidableEq, Repr

/-- Read the bytes that continue a character, the next of them between `low` and `high`. The
answer is the code point, or how many of the bytes are good and what is wrong after them. -/
def continuation (low high : UInt8) :
    (following bits : Nat) → List UInt8 → Except (Nat × Reason) Nat
  | 0, bits, _ => .ok bits
  | _ + 1, _, [] => .error (0, .unexpectedEnd)
  | following + 1, bits, byte :: rest =>
    if low ≤ byte && byte ≤ high then
      (continuation 0x80 0xBF following (bits * 64 + (byte.toNat - 0x80)) rest).mapError
        fun (good, reason) => (good + 1, reason)
    else
      .error (0, .invalidContinuation)

/-- The text of the bytes, the first of them at `position`. -/
def decodeFrom (position : Nat) : List UInt8 → Except Malformed Text
  | [] => .ok []
  | byte :: rest =>
    match lead? byte with
    | none => .error ⟨position, byte, 1, .invalidStart⟩
    | some lead =>
      match continuation lead.low lead.high lead.following lead.bits rest with
      | .ok codePoint =>
        (decodeFrom (position + 1 + lead.following) (rest.drop lead.following)).map
          (Char.ofNat codePoint :: ·)
      | .error (good, reason) => .error ⟨position, byte, good + 1, reason⟩
termination_by bytes => bytes.length
decreasing_by simp only [List.length_cons, List.length_drop]; omega

/-- The text of the bytes. -/
def decode (bytes : List UInt8) : Except Malformed Text := decodeFrom 0 bytes

/-- The failure in words. -/
def Reason.name : Reason → String
  | .invalidStart => "invalid start byte"
  | .invalidContinuation => "invalid continuation byte"
  | .unexpectedEnd => "unexpected end of data"

/-- The failure in words, with the byte when it is a single one and with the range otherwise. -/
def Malformed.message (malformed : Malformed) : String :=
  let place :=
    if malformed.length = 1 then
      "byte 0x" ++ String.ofList [Nat.digitChar (malformed.byte.toNat / 16),
        Nat.digitChar (malformed.byte.toNat % 16)]
        ++ " in position " ++ toString malformed.position
    else
      "bytes in position " ++ toString malformed.position ++ "-"
        ++ toString (malformed.position + malformed.length - 1)
  "'utf-8' codec can't decode " ++ place ++ ": " ++ malformed.reason.name

end Utf8

end MathGrammar
