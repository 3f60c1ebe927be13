import MathGrammar.Text.Utf8

/-! # Decoding what was encoded

Every text is read back from its bytes. The ranges of the second byte leave out exactly what is no
character's encoding: forms that are longer than needed, surrogates, and what lies beyond the last
code point. -/

namespace MathGrammar

namespace Utf8

/-- The bytes of a text. -/
def encode (text : Text) : List UInt8 := text.flatMap String.utf8EncodeChar

/-! ### First bytes -/

/-- Small numbers are the numbers of their bytes. -/
theorem toNat_ofNat_of_lt {n : Nat} (lt : n < 256) : (UInt8.ofNat n).toNat = n := by
  rw [UInt8.toNat_ofNat']
  exact Nat.mod_eq_of_lt lt

/-- A byte below `0x80` stands for itself. -/
theorem lead?_one {byte : UInt8} (lt : byte.toNat < 0x80) :
    lead? byte = some ⟨0, 0, 0, byte.toNat⟩ :=
  if_pos (UInt8.lt_iff_toNat_lt.2 lt)

/-- A byte from `0xC2` on leads a sequence of two. -/
theorem lead?_two {byte : UInt8} (ge : 0xC2 ≤ byte.toNat) (lt : byte.toNat < 0xE0) :
    lead? byte = some ⟨1, 0x80, 0xBF, byte.toNat - 0xC0⟩ := by
  unfold lead?
  simp only [UInt8.lt_iff_toNat_lt, UInt8.reduceToNat]
  rw [if_neg (by omega), if_neg (by omega), if_pos lt]

/-- A byte from `0xE0` on leads a sequence of three, whose second byte excludes short forms and
surrogates. -/
theorem lead?_three {byte : UInt8} (ge : 0xE0 ≤ byte.toNat) (lt : byte.toNat < 0xF0) :
    lead? byte = some ⟨2, if byte = 0xE0 then 0xA0 else 0x80, if byte = 0xED then 0x9F else 0xBF,
      byte.toNat - 0xE0⟩ := by
  unfold lead?
  simp only [UInt8.lt_iff_toNat_lt, UInt8.reduceToNat]
  rw [if_neg (by omega), if_neg (by omega), if_neg (by omega), if_pos lt]

/-- A byte from `0xF0` on leads a sequence of four, whose second byte excludes short forms and large
numbers. -/
theorem lead?_four {byte : UInt8} (ge : 0xF0 ≤ byte.toNat) (lt : byte.toNat < 0xF5) :
    lead? byte = some ⟨3, if byte = 0xF0 then 0x90 else 0x80, if byte = 0xF4 then 0x8F else 0xBF,
      byte.toNat - 0xF0⟩ := by
  unfold lead?
  simp only [UInt8.lt_iff_toNat_lt, UInt8.reduceToNat]
  rw [if_neg (by omega), if_neg (by omega), if_neg (by omega), if_neg (by omega), if_pos lt]

/-! ### The bytes behind the first -/

section Bounds

variable {byte marked narrow usual : UInt8} {n : Nat}

/-- The least second byte is another one behind the marked first byte. -/
theorem toNat_ite_le (atMarked : byte.toNat = marked.toNat → narrow.toNat ≤ n)
    (otherwise : usual.toNat ≤ n) : (if byte = marked then narrow else usual).toNat ≤ n := by
  by_cases isMarked : byte = marked
  · rw [if_pos isMarked]
    exact atMarked (congrArg UInt8.toNat isMarked)
  · rwa [if_neg isMarked]

/-- The greatest second byte is another one behind the marked first byte. -/
theorem le_toNat_ite (atMarked : byte.toNat = marked.toNat → n ≤ narrow.toNat)
    (otherwise : n ≤ usual.toNat) : n ≤ (if byte = marked then narrow else usual).toNat := by
  by_cases isMarked : byte = marked
  · rw [if_pos isMarked]
    exact atMarked (congrArg UInt8.toNat isMarked)
  · rwa [if_neg isMarked]

end Bounds

/-- A byte in its range adds six bits. -/
theorem continuation_cons {low high byte : UInt8} {following bits result : Nat} {rest : List UInt8}
    (low_le : low.toNat ≤ byte.toNat) (le_high : byte.toNat ≤ high.toNat)
    (others : continuation 0x80 0xBF following (bits * 64 + (byte.toNat - 0x80)) rest
      = .ok result) :
    continuation low high (following + 1) bits (byte :: rest) = .ok result := by
  have inRange : (low ≤ byte && byte ≤ high) = true := by
    rw [Bool.and_eq_true, decide_eq_true_eq, decide_eq_true_eq]
    exact ⟨UInt8.le_iff_toNat_le.2 low_le, UInt8.le_iff_toNat_le.2 le_high⟩
  rw [continuation, if_pos inRange, others]
  rfl

/-- A byte with six bits in it. -/
theorem toNat_tail (n : Nat) : (UInt8.ofNat (n % 64 + 128)).toNat = n % 64 + 128 :=
  toNat_ofNat_of_lt (by omega)

/-- Such a byte stands behind any byte but the first. -/
theorem continuation_tail {following bits result n : Nat} {rest : List UInt8}
    (others : continuation 0x80 0xBF following (bits * 64 + n % 64) rest = .ok result) :
    continuation 0x80 0xBF (following + 1) bits (UInt8.ofNat (n % 64 + 128) :: rest)
      = .ok result := by
  have tail := toNat_tail n
  refine continuation_cons ?_ ?_ ?_
  · show 0x80 ≤ _
    omega
  · show _ ≤ 0xBF
    omega
  · rw [tail, Nat.add_sub_cancel]
    exact others

/-- Where the bytes of a character stand in front, it is the first character of the text. -/
theorem decodeFrom_append {position : Nat} {byte : UInt8} {following rest : List UInt8}
    {lead : Lead} {c : Char} (lead_eq : lead? byte = some lead)
    (length_eq : lead.following = following.length)
    (continues : continuation lead.low lead.high lead.following lead.bits (following ++ rest)
      = .ok c.toNat) :
    decodeFrom position (byte :: (following ++ rest))
      = (decodeFrom (position + 1 + following.length) rest).map (c :: ·) := by
  rw [decodeFrom, lead_eq]
  simp only [continues]
  rw [length_eq, List.drop_left, Char.ofNat_toNat]

/-! ### Characters -/

/-- No character is a surrogate or lies beyond the last code point. -/
theorem toNat_valid (c : Char) : c.toNat < 0xD800 ∨ 0xDFFF < c.toNat ∧ c.toNat < 0x110000 := c.valid

variable {c : Char} (position : Nat) (rest : List UInt8)

/-- A character of one byte is decoded. -/
theorem decodeFrom_one (le : c.toNat ≤ 0x7F) :
    decodeFrom position (UInt8.ofNat c.toNat :: rest)
      = (decodeFrom (position + 1) rest).map (c :: ·) := by
  have first : (UInt8.ofNat c.toNat).toNat = c.toNat := toNat_ofNat_of_lt (by omega)
  have lead_eq : lead? (UInt8.ofNat c.toNat) = some ⟨0, 0, 0, c.toNat⟩ := by
    rw [lead?_one (by omega), first]
  have whole : continuation 0 0 0 c.toNat ([] ++ rest) = .ok c.toNat := by
    rw [continuation]
  exact decodeFrom_append lead_eq rfl whole

/-- A character of two bytes is decoded. -/
theorem decodeFrom_two (gt : 0x7F < c.toNat) (le : c.toNat ≤ 0x7FF) :
    decodeFrom position (UInt8.ofNat (c.toNat / 64 % 32 + 192)
        :: ([UInt8.ofNat (c.toNat % 64 + 128)] ++ rest))
      = (decodeFrom (position + 1 + 1) rest).map (c :: ·) := by
  have first : (UInt8.ofNat (c.toNat / 64 % 32 + 192)).toNat = c.toNat / 64 + 192 := by
    rw [toNat_ofNat_of_lt (by omega)]
    omega
  refine decodeFrom_append (lead?_two (by omega) (by omega)) rfl (continuation_tail ?_)
  rw [continuation, first]
  dsimp only
  exact congrArg Except.ok (by omega)

/-- A character of three bytes is decoded, as its number is none of a surrogate. -/
theorem decodeFrom_three (gt : 0x7FF < c.toNat) (le : c.toNat ≤ 0xFFFF) :
    decodeFrom position (UInt8.ofNat (c.toNat / 4096 % 16 + 224)
        :: ([UInt8.ofNat (c.toNat / 64 % 64 + 128), UInt8.ofNat (c.toNat % 64 + 128)] ++ rest))
      = (decodeFrom (position + 1 + 2) rest).map (c :: ·) := by
  have valid := toNat_valid c
  have first : (UInt8.ofNat (c.toNat / 4096 % 16 + 224)).toNat = c.toNat / 4096 + 224 := by
    rw [toNat_ofNat_of_lt (by omega)]
    omega
  have second := toNat_tail (c.toNat / 64)
  refine decodeFrom_append (lead?_three (by omega) (by omega)) rfl ?_
  refine continuation_cons (toNat_ite_le ?_ ?_) (le_toNat_ite ?_ ?_) (continuation_tail ?_)
  · -- Below the least code point of three bytes the second byte would be too small.
    show _ = 0xE0 → 0xA0 ≤ _
    omega
  · show 0x80 ≤ _
    omega
  · -- The surrogates would have a greater second byte.
    show _ = 0xED → _ ≤ 0x9F
    omega
  · show _ ≤ 0xBF
    omega
  · rw [continuation, first, second]
    dsimp only
    exact congrArg Except.ok (by omega)

/-- A character of four bytes is decoded, as its number is not too large. -/
theorem decodeFrom_four (gt : 0xFFFF < c.toNat) :
    decodeFrom position (UInt8.ofNat (c.toNat / 262144 % 8 + 240)
        :: ([UInt8.ofNat (c.toNat / 4096 % 64 + 128), UInt8.ofNat (c.toNat / 64 % 64 + 128),
          UInt8.ofNat (c.toNat % 64 + 128)] ++ rest))
      = (decodeFrom (position + 1 + 3) rest).map (c :: ·) := by
  have valid := toNat_valid c
  have first : (UInt8.ofNat (c.toNat / 262144 % 8 + 240)).toNat = c.toNat / 262144 + 240 := by
    rw [toNat_ofNat_of_lt (by omega)]
    omega
  have second := toNat_tail (c.toNat / 4096)
  refine decodeFrom_append (lead?_four (by omega) (by omega)) rfl ?_
  refine continuation_cons (toNat_ite_le ?_ ?_) (le_toNat_ite ?_ ?_)
    (continuation_tail (continuation_tail ?_))
  · -- Below the least code point of four bytes the second byte would be too small.
    show _ = 0xF0 → 0x90 ≤ _
    omega
  · show 0x80 ≤ _
    omega
  · -- Beyond the last code point it would be greater.
    show _ = 0xF4 → _ ≤ 0x8F
    omega
  · show _ ≤ 0xBF
    omega
  · rw [continuation, first, second]
    dsimp only
    exact congrArg Except.ok (by omega)

/-! ### Whole texts -/

/-- The bytes of a character are read as the character. -/
theorem decodeFrom_utf8EncodeChar (c : Char) : ∃ position',
    decodeFrom position (String.utf8EncodeChar c ++ rest)
      = (decodeFrom position' rest).map (c :: ·) := by
  have toNat_eq : c.val.toNat = c.toNat := rfl
  unfold String.utf8EncodeChar
  simp only [toNat_eq]
  by_cases one : c.toNat ≤ 0x7F
  · rw [if_pos one]
    exact ⟨_, decodeFrom_one position rest one⟩
  by_cases two : c.toNat ≤ 0x7FF
  · rw [if_neg one, if_pos two]
    exact ⟨_, decodeFrom_two position rest (by omega) two⟩
  by_cases three : c.toNat ≤ 0xFFFF
  · rw [if_neg one, if_neg two, if_pos three]
    exact ⟨_, decodeFrom_three position rest (by omega) three⟩
  · rw [if_neg one, if_neg two, if_neg three]
    exact ⟨_, decodeFrom_four position rest (by omega)⟩

/-- **Every text is decoded from its bytes.** -/
theorem decode_encode (text : Text) : decode (encode text) = .ok text := by
  have everywhere : ∀ position, decodeFrom position (encode text) = .ok text := by
    induction text with
    | nil =>
        intro position
        exact decodeFrom.eq_1 position
    | cons c text ih =>
        intro position
        obtain ⟨position', step⟩ := decodeFrom_utf8EncodeChar position (encode text) c
        rw [encode, List.flatMap_cons, ← encode, step, ih]
        rfl
  exact everywhere 0

end Utf8

end MathGrammar
