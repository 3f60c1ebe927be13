import MathGrammar.Spacing

/-! # Runs of spacing

Spacing tokens are recognised by their first characters, a run of them ends where no token starts,
and skipping is therefore idempotent. -/

namespace MathGrammar

namespace Spacing

variable {spacing : Spacing}

/-! ### Tokens -/

/-- The spacing words are recognised as prefixes, the other tokens by one character. -/
theorem lengthAfterBackslash_eq (spacing : Spacing) (text : Text) :
    spacing.lengthAfterBackslash text =
      if ['q', 'u', 'a', 'd'].isPrefixOf text then
        if startsWithLetter (text.drop 4) then 0 else 4
      else if ['q', 'q', 'u', 'a', 'd'].isPrefixOf text then
        if startsWithLetter (text.drop 5) then 0 else 5
      else match text.head? with
        | some c =>
          if c = '\\' then if spacing = .separators then 1 else 0
          else if [' ', ',', ':', ';', '!'].contains c then 1 else 0
        | none => 0 := by
  unfold lengthAfterBackslash
  split
  · simp
  · simp
  · simp
  · rename_i c rest notQuad notQquad notBackslash
    -- The last pattern stands behind those of the words, so neither word is found.
    have quad : ['q', 'u', 'a', 'd'].isPrefixOf (c :: rest) = false := by
      rw [Bool.eq_false_iff]
      intro h
      obtain ⟨more, eq⟩ := List.isPrefixOf_iff_prefix.1 h
      obtain ⟨rfl, rfl⟩ := List.cons.inj eq
      exact notQuad more rfl rfl
    have qquad : ['q', 'q', 'u', 'a', 'd'].isPrefixOf (c :: rest) = false := by
      rw [Bool.eq_false_iff]
      intro h
      obtain ⟨more, eq⟩ := List.isPrefixOf_iff_prefix.1 h
      obtain ⟨rfl, rfl⟩ := List.cons.inj eq
      exact notQquad more rfl rfl
    simp only [quad, qquad, List.head?_cons, Bool.false_eq_true, if_false]
    rw [if_neg notBackslash]
  · rfl

/-- A token behind a backslash is as long as the command there, the backslash counted. -/
theorem tokenLength_backslash (spacing : Spacing) (rest : Text) :
    spacing.tokenLength ('\\' :: rest) = match spacing.lengthAfterBackslash rest with
      | 0 => 0
      | n + 1 => n + 2 := rfl

/-- Without a backslash only a blank, an ampersand or a tilde is a token. -/
theorem tokenLength_of_ne_backslash (spacing : Spacing) {c : Char} (ne : c ≠ '\\') (rest : Text) :
    spacing.tokenLength (c :: rest) = if isBlank c || c == '&' || c == '~' then 1 else 0 := by
  unfold tokenLength
  split
  · rename_i rest' eq
    exact absurd (List.cons.inj eq).1 ne
  · rename_i eq
    obtain ⟨rfl, rfl⟩ := List.cons.inj eq
    rfl
  · rename_i eq
    exact absurd eq (List.cons_ne_nil _ _)

/-- Letters and digits lie between the digit zero and the small letter z. -/
theorem toNat_of_isAlphanum {c : Char} (alphanumeric : c.isAlphanum = true) :
    0x30 ≤ c.toNat ∧ c.toNat ≤ 0x7A := by
  have ranges : (decide (65 ≤ c.val ∧ c.val ≤ 90) || (decide (97 ≤ c.val) && decide (c.val ≤ 122))
      || (decide (48 ≤ c.val) && decide (c.val ≤ 57))) = true := alphanumeric
  simp only [Bool.or_eq_true, Bool.and_eq_true, decide_eq_true_eq, UInt32.le_iff_toNat_le,
    UInt32.reduceToNat] at ranges
  have toNat_eq : c.toNat = c.val.toNat := rfl
  omega

/-- No spacing token starts with a letter, a digit, an opening bracket, an opening brace or a
caret. -/
theorem tokenLength_eq_zero_of_head {c : Char}
    (opens : (c.isAlphanum || c == '[' || c == '\x7b' || c == '^') = true) (rest : Text) :
    spacing.tokenLength (c :: rest) = 0 := by
  -- All of them lie between the blank characters and the tilde.
  have inside : 0x30 ≤ c.toNat ∧ c.toNat ≤ 0x7B ∧ c ≠ '\\' := by
    simp only [Bool.or_eq_true, beq_iff_eq] at opens
    rcases opens with ((alphanumeric | rfl) | rfl) | rfl
    · have bounds := toNat_of_isAlphanum alphanumeric
      refine ⟨bounds.1, by omega, ?_⟩
      rintro rfl
      exact absurd alphanumeric (by decide)
    all_goals decide
  obtain ⟨lower, upper, ne⟩ := inside
  rw [tokenLength_of_ne_backslash spacing ne, if_neg]
  simp only [isBlank, Bool.or_eq_true, Bool.and_eq_true, decide_eq_true_eq, beq_iff_eq]
  rintro ((blank | rfl) | rfl)
  · omega
  · exact absurd lower (by decide)
  · exact absurd upper (by decide)

/-- The spacing tokens, each in front of a text: one character, a spacing word that no letter
follows, or a backslash with one character, which is a backslash only in a line break. -/
inductive Token (spacing : Spacing) : Text → Text → Prop where
  /-- A blank character or an alignment mark. -/
  | char {c : Char} (ne : c ≠ '\\') (spaces : (isBlank c || c == '&' || c == '~') = true)
    (rest : Text) : Token spacing [c] rest
  /-- A spacing word. -/
  | word {word rest : Text} (mem : word ∈ [['q', 'u', 'a', 'd'], ['q', 'q', 'u', 'a', 'd']])
    (noLetter : startsWithLetter rest = false) : Token spacing ('\\' :: word) rest
  /-- A spacing command of one character, or a line break. -/
  | pair {c : Char}
    (short : [' ', ',', ':', ';', '!'].contains c = true ∨ c = '\\' ∧ spacing = .separators)
    (rest : Text) : Token spacing ['\\', c] rest

/-- Every token takes up something. -/
theorem Token.length_pos {token rest : Text} (shape : Token spacing token rest) :
    0 < token.length := by
  cases shape <;> simp

/-- Every token is recognised as one. -/
theorem Token.tokenLength_append {token rest : Text} (shape : Token spacing token rest) :
    spacing.tokenLength (token ++ rest) = token.length := by
  cases shape with
  | char ne spaces =>
      rw [List.singleton_append, tokenLength_of_ne_backslash spacing ne, if_pos spaces]
      rfl
  | word mem noLetter =>
      rw [List.cons_append, tokenLength_backslash, lengthAfterBackslash_eq]
      simp only [List.mem_cons, List.not_mem_nil, or_false] at mem
      rcases mem with rfl | rfl <;> simp [noLetter]
  | @pair c short =>
      rw [List.cons_append, tokenLength_backslash, lengthAfterBackslash_eq]
      rcases short with short | ⟨rfl, rfl⟩
      · simp only [List.contains_eq_mem, List.mem_cons, List.not_mem_nil, or_false,
          decide_eq_true_eq] at short
        rcases short with rfl | rfl | rfl | rfl | rfl <;> simp
      · simp

/-- What is recognised is a token. -/
theorem exists_token {text : Text} (ne : spacing.tokenLength text ≠ 0) :
    ∃ token rest, Token spacing token rest ∧ text = token ++ rest := by
  rcases text with _ | ⟨c, text⟩
  · exact absurd rfl ne
  by_cases backslash : c = '\\'
  · subst backslash
    have found : spacing.lengthAfterBackslash text ≠ 0 := by
      intro none
      rw [tokenLength_backslash, none] at ne
      exact ne rfl
    -- The words are tried before the characters.
    rw [lengthAfterBackslash_eq] at found
    split at found
    · rename_i isWord
      obtain ⟨rest, rfl⟩ := List.isPrefixOf_iff_prefix.1 isWord
      exact ⟨_, rest, .word (by simp) (by simpa using found), rfl⟩
    · split at found
      · rename_i isWord
        obtain ⟨rest, rfl⟩ := List.isPrefixOf_iff_prefix.1 isWord
        exact ⟨_, rest, .word (by simp) (by simpa using found), rfl⟩
      · rcases text with _ | ⟨c, rest⟩
        · simp at found
        · refine ⟨['\\', c], rest, .pair ?_ rest, rfl⟩
          simp only [List.head?_cons] at found
          split at found
          · rename_i lineBreak
            exact .inr ⟨lineBreak, by simpa using found⟩
          · exact .inl (Decidable.byContradiction fun other => found (if_neg other))
  · rw [tokenLength_of_ne_backslash spacing backslash] at ne
    have single : isBlank c || c == '&' || c == '~' :=
      Decidable.byContradiction fun other => ne (if_neg other)
    exact ⟨[c], text, .char backslash single text, rfl⟩

/-- Line breaks only add to the tokens. -/
theorem Token.separators {token rest : Text} (shape : Token .inline token rest) :
    Token .separators token rest := by
  cases shape with
  | char ne spaces => exact .char ne spaces rest
  | word mem noLetter => exact .word mem noLetter
  | pair short => exact .pair (short.imp_right fun h => ⟨h.1, rfl⟩) rest

/-- Where no separator starts no inline spacing does. -/
theorem tokenLength_inline_of_separators {text : Text}
    (none : Spacing.separators.tokenLength text = 0) : Spacing.inline.tokenLength text = 0 := by
  by_cases found : Spacing.inline.tokenLength text = 0
  · exact found
  · obtain ⟨token, rest, shape, rfl⟩ := exists_token found
    have positive := shape.length_pos
    have length_eq := shape.separators.tokenLength_append
    omega

/-! ### Runs -/

/-- Spacing tokens one after another, in front of a text. -/
inductive Tokens (spacing : Spacing) : Text → Text → Prop where
  /-- No token. -/
  | nil (rest : Text) : Tokens spacing [] rest
  /-- One token and then others. -/
  | cons {token run rest : Text} (first : Token spacing token (run ++ rest))
    (others : Tokens spacing run rest) : Tokens spacing (token ++ run) rest

/-- Where no token starts there is no run. -/
theorem runLength_eq_zero {text : Text} (none : spacing.tokenLength text = 0) :
    spacing.runLength text = 0 := by
  rw [runLength.eq_def, none]

/-- A run starts with a token and goes on behind it. -/
theorem runLength_append {token rest : Text} (shape : Token spacing token rest) :
    spacing.runLength (token ++ rest) = token.length + spacing.runLength rest := by
  have length_eq := shape.tokenLength_append
  have positive := shape.length_pos
  rcases token with _ | ⟨c, token⟩
  · exact absurd positive (Nat.lt_irrefl 0)
  · rw [List.cons_append, List.length_cons] at length_eq
    rw [List.cons_append, runLength.eq_def, length_eq]
    simp

/-- Every run of tokens is the first part of the longest one. -/
theorem Tokens.runLength_append_add {run rest : Text} (tokens : Tokens spacing run rest) :
    spacing.runLength (run ++ rest) = run.length + spacing.runLength rest := by
  induction tokens with
  | nil rest => rw [List.nil_append, List.length_nil, Nat.zero_add]
  | cons first _ ih =>
      rw [List.append_assoc, Spacing.runLength_append first, ih, List.length_append, Nat.add_assoc]

/-- A run that no token follows is the longest one. -/
theorem Tokens.runLength_append {run rest : Text} (tokens : Tokens spacing run rest)
    (last : spacing.tokenLength rest = 0) : spacing.runLength (run ++ rest) = run.length := by
  rw [tokens.runLength_append_add, runLength_eq_zero last, Nat.add_zero]

/-- A text is a run of spacing and a text that starts with no token. -/
theorem exists_run (spacing : Spacing) (text : Text) :
    ∃ run rest, text = run ++ rest ∧ Tokens spacing run rest ∧ spacing.tokenLength rest = 0 := by
  -- On the length, as no token is empty.
  induction length : text.length using Nat.strongRecOn generalizing text with
  | ind n ih =>
      by_cases none : spacing.tokenLength text = 0
      · exact ⟨[], text, rfl, .nil text, none⟩
      · obtain ⟨token, more, shape, rfl⟩ := exists_token none
        have positive := shape.length_pos
        obtain ⟨run, rest, rfl, tokens, last⟩ :=
          ih more.length (by rw [← length, List.length_append]; omega) more rfl
        exact ⟨token ++ run, rest, (List.append_assoc _ _ _).symm, .cons shape tokens, last⟩

/-- Skipping spacing passes over a run and stops where no token starts. -/
theorem exists_of_skip (spacing : Spacing) (cursor : Cursor) :
    ∃ run rest, cursor.rest = run ++ rest ∧ Tokens spacing run rest ∧ spacing.tokenLength rest = 0 ∧
      cursor.skip spacing = ⟨cursor.offset + run.length, rest⟩ := by
  obtain ⟨run, rest, text_eq, tokens, last⟩ := exists_run spacing cursor.rest
  refine ⟨run, rest, text_eq, tokens, last, ?_⟩
  rw [Cursor.skip, Cursor.advance, text_eq, tokens.runLength_append last, List.drop_left]

/-- A run may also stand in front of any other text that a spacing word may stand in front of. -/
theorem Tokens.of_nil {run more : Text} (tokens : Tokens spacing run [])
    (noLetter : startsWithLetter more = false) : Tokens spacing run more := by
  generalize nil_eq : ([] : Text) = rest at tokens
  induction tokens with
  | nil => exact .nil more
  | @cons token run rest first others ih =>
      subst nil_eq
      -- Only a word at the end of the run looks behind it, and it finds no letter there.
      refine .cons ?_ (ih rfl)
      rw [List.append_nil] at first
      cases first with
      | char ne spaces => exact .char ne spaces _
      | pair short => exact .pair short _
      | word mem follows =>
          refine .word mem ?_
          cases run with
          | nil => exact noLetter
          | cons c run => exact follows

end Spacing

end MathGrammar
