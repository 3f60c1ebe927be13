import MathGrammar.Proofs.Consumption

/-! # Texts without their separators

Deleting the separator tokens of a text leaves what it shows. A token is recognised by the text
behind it as well, so a text is cut into parts only where no token is broken up: behind the
character that belongs to a backslash, and in front of what is no letter. -/

namespace MathGrammar

open Spacing

/-! ### Deleting separators -/

/-- The text behind the given number of characters, without its separator tokens. -/
def Text.withoutTokens : (passed : Nat) → Text → Text
  | _, [] => []
  | passed + 1, _ :: rest => withoutTokens passed rest
  | 0, c :: rest => match Spacing.separators.tokenLength (c :: rest) with
    | 0 => c :: withoutTokens 0 rest
    | length + 1 => withoutTokens length rest

/-- The text without its separator tokens. -/
def Text.withoutSeparators (text : Text) : Text := text.withoutTokens 0

namespace Text

/-- Characters that belong to a token are dropped, and then the tokens of what is left. -/
theorem withoutTokens_append (before text : Text) :
    (before ++ text).withoutTokens before.length = text.withoutTokens 0 := by
  induction before with
  | nil => rfl
  | cons c before ih => exact ih

/-- A token in front leaves nothing. -/
theorem withoutSeparators_token {token rest : Text} (shape : Token .separators token rest) :
    (token ++ rest).withoutSeparators = rest.withoutSeparators := by
  have length_eq := shape.tokenLength_append
  have positive := shape.length_pos
  cases token with
  | nil => exact absurd positive (Nat.lt_irrefl 0)
  | cons c token =>
      rw [List.cons_append, List.length_cons] at length_eq
      rw [withoutSeparators, List.cons_append, withoutTokens, length_eq]
      exact withoutTokens_append token rest

/-- A character that starts no token stays. -/
theorem withoutSeparators_cons {c : Char} {rest : Text}
    (none : Spacing.separators.tokenLength (c :: rest) = 0) :
    withoutSeparators (c :: rest) = c :: rest.withoutSeparators := by
  rw [withoutSeparators, withoutTokens, none]
  rfl

end Text

/-! ### Where texts can be cut -/

/-- A text starts with no letter when its first part does not and the second would not either. -/
theorem Spacing.startsWithLetter_append {text more : Text} (first : startsWithLetter text = false)
    (second : startsWithLetter more = false) : startsWithLetter (text ++ more) = false := by
  cases text with
  | nil => exact second
  | cons c text => exact first

namespace Spacing.Token

variable {spacing : Spacing} {token text more : Text}

/-- A token is one in front of any longer text that goes on without a letter. -/
theorem append (shape : Token spacing token text) (noLetter : startsWithLetter more = false) :
    Token spacing token (text ++ more) := by
  cases shape with
  | char ne spaces => exact .char ne spaces _
  | word mem follows => exact .word mem (startsWithLetter_append follows noLetter)
  | pair short => exact .pair short _

/-- A token is one in front of any shorter text. -/
theorem of_append (shape : Token spacing token (text ++ more)) : Token spacing token text := by
  cases shape with
  | char ne spaces => exact .char ne spaces _
  | pair short => exact .pair short _
  | word mem follows =>
      refine .word mem ?_
      cases text with
      | nil => rfl
      | cons c text => exact follows

/-- No token is broken up by the end of units that no letter follows. -/
theorem prefix_of_append {rest : Text} (shape : Token spacing token rest)
    (units : Units spacing text) (nonempty : text ≠ []) (noLetter : startsWithLetter more = false)
    (text_eq : text ++ more = token ++ rest) : token <+: text := by
  have aligned : token <+: text ++ more := ⟨rest, text_eq.symm⟩
  rcases List.prefix_or_prefix_of_prefix aligned (List.prefix_append text more) with inside |
    ⟨tail, rfl⟩
  · exact inside
  cases tail with
  | nil => exact (List.append_nil text).symm ▸ List.prefix_rfl
  | cons d tail =>
      -- The text ends inside the token, in front of what its backslash needs or of a letter.
      rw [List.append_assoc, List.append_cancel_left_eq] at text_eq
      obtain ⟨c, text, rfl⟩ := List.exists_cons_of_ne_nil nonempty
      generalize token_eq : c :: text ++ d :: tail = token at shape
      cases shape with
      | char => simp at token_eq
      | pair =>
          obtain ⟨rfl, tail_eq⟩ := List.cons.inj token_eq
          obtain ⟨rfl, -⟩ : text = [] ∧ _ := by
            simpa [List.append_eq_cons_iff] using tail_eq
          cases units with
          | char ne => exact absurd rfl ne
      | word mem =>
          obtain ⟨rfl, rfl⟩ := List.cons.inj token_eq
          have letters : ∀ word ∈ [['q', 'u', 'a', 'd'], ['q', 'q', 'u', 'a', 'd']],
              word.all Char.isAlpha = true := by decide
          have letter : d.isAlpha = true := List.all_eq_true.1 (letters _ mem) d
            (List.mem_append_right text List.mem_cons_self)
          rw [text_eq] at noLetter
          exact absurd letter (Bool.eq_false_iff.1 noLetter)

end Spacing.Token

namespace Units

variable {spacing : Spacing} {text : Text}

/-- Units behind a character that begins no command are units by themselves. -/
theorem of_cons {c : Char} (units : Units spacing (c :: text)) (ne : c ≠ '\\') :
    Units spacing text := by
  cases units with
  | char _ others => exact others
  | pair => exact absurd rfl ne

/-- Units behind characters that begin no command are units by themselves. -/
theorem of_notMem_append {before : Text} (units : Units spacing (before ++ text))
    (noBackslash : '\\' ∉ before) : Units spacing text := by
  induction before with
  | nil => exact units
  | cons c before ih =>
      rw [List.mem_cons, not_or] at noBackslash
      exact ih (units.of_cons (Ne.symm noBackslash.1)) noBackslash.2

/-- Behind a token units are left. -/
theorem of_token_append {token : Text} (units : Units spacing (token ++ text))
    (shape : Token spacing token text) : Units spacing text := by
  cases shape with
  | char ne => exact units.of_cons ne
  | pair =>
      cases units with
      | char ne => exact absurd rfl ne
      | pair _ others => exact others
  | @word word _ mem =>
      -- The letters behind the first one come without backslashes.
      have letters : ∀ word ∈ [['q', 'u', 'a', 'd'], ['q', 'q', 'u', 'a', 'd']],
          '\\' ∉ word.tail ∧ word ≠ [] := by decide
      obtain ⟨noBackslash, nonempty⟩ := letters word mem
      obtain ⟨c, word, rfl⟩ := List.exists_cons_of_ne_nil nonempty
      cases units with
      | char ne => exact absurd rfl ne
      | pair _ others => exact of_notMem_append others noBackslash

/-- A character that starts no token leaves units. -/
theorem of_tokenLength_eq_zero {c : Char} (units : Units .separators (c :: text))
    (none : Spacing.separators.tokenLength (c :: text) = 0) : Units .separators text := by
  cases units with
  | char _ others => exact others
  | @pair d text _ others =>
      refine .char ?_ others
      rintro rfl
      -- Two backslashes are a token.
      have lineBreak : Token .separators ['\\', '\\'] text := .pair (.inr ⟨rfl, rfl⟩) text
      exact absurd (lineBreak.tokenLength_append.symm.trans none) nofun

end Units

/-- Where no token starts in a text, none starts in it when it goes on without a letter. -/
theorem Spacing.tokenLength_append_eq_zero {spacing : Spacing} {text more : Text}
    (units : Units spacing text) (nonempty : text ≠ []) (noLetter : startsWithLetter more = false)
    (none : spacing.tokenLength text = 0) : spacing.tokenLength (text ++ more) = 0 := by
  by_cases found : spacing.tokenLength (text ++ more) = 0
  · exact found
  · obtain ⟨token, rest, shape, text_eq⟩ := exists_token found
    obtain ⟨behind, rfl⟩ := shape.prefix_of_append units nonempty noLetter text_eq
    rw [List.append_assoc, List.append_cancel_left_eq] at text_eq
    subst text_eq
    have length_eq := shape.of_append.tokenLength_append
    have positive := shape.length_pos
    omega

namespace Text

variable {text more : Text}

/-- **Deleting separators part by part.** The separators of a text are those of its parts, when it
is cut behind units and in front of no letter. -/
theorem withoutSeparators_append (units : Units .separators text)
    (noLetter : startsWithLetter more = false) :
    (text ++ more).withoutSeparators = text.withoutSeparators ++ more.withoutSeparators := by
  -- On the length, as a token is deleted at once.
  induction length : text.length using Nat.strongRecOn generalizing text with
  | ind n ih =>
      by_cases none : Spacing.separators.tokenLength text = 0
      · cases text with
        | nil => rfl
        | cons c text =>
            have none' := tokenLength_append_eq_zero units (List.cons_ne_nil c text) noLetter none
            have units' := units.of_tokenLength_eq_zero none
            rw [List.cons_append] at none' ⊢
            rw [withoutSeparators_cons none', withoutSeparators_cons none,
              ih text.length (by simp [← length]) units' rfl, List.cons_append]
      · obtain ⟨token, rest, shape, rfl⟩ := exists_token none
        have positive := shape.length_pos
        rw [List.append_assoc, withoutSeparators_token (shape.append noLetter),
          withoutSeparators_token shape]
        exact ih rest.length (by rw [← length, List.length_append]; omega)
          (units.of_token_append shape) rfl

/-! ### What texts show -/

/-- The text shows the given characters: they are left of it without its separators, on its own and
also as a part of a longer text. -/
structure Shows (text shown : Text) : Prop where
  /-- It can be cut off at its end. -/
  units : Units .separators text
  /-- It can be cut off at its start. -/
  noLetter : startsWithLetter text = false
  /-- Without its separators it is what it shows. -/
  withoutSeparators_eq : text.withoutSeparators = shown

namespace Shows

variable {shown seen : Text}

/-- Nothing shows nothing. -/
theorem nil : Shows [] [] := ⟨.nil, rfl, rfl⟩

/-- What two texts show is shown by the two together. -/
theorem append (first : Shows text shown) (second : Shows more seen) :
    Shows (text ++ more) (shown ++ seen) where
  units := first.units.append second.units
  noLetter := startsWithLetter_append first.noLetter second.noLetter
  withoutSeparators_eq := by
    rw [withoutSeparators_append first.units second.noLetter, first.withoutSeparators_eq,
      second.withoutSeparators_eq]

/-- Spacing shows nothing. -/
theorem of_tokens {spacing : Spacing} {run rest : Text} (tokens : Tokens spacing run rest) :
    Shows run [] := by
  induction tokens with
  | nil => exact nil
  | @cons token run rest first _ ih =>
      have separator : Token .separators token run := by
        cases spacing with
        | inline => exact first.of_append.separators
        | separators => exact first.of_append
      refine ⟨(Units.of_token separator).append ih.units, ?_, ?_⟩
      · cases separator with
        | word | pair => rfl
        | @char c ne spaces =>
            rw [← Bool.not_eq_true]
            intro letter
            have alphanumeric : c.isAlphanum = true := Bool.or_eq_true_iff.2 (.inl letter)
            have none : Spacing.separators.tokenLength (c :: run) = 0 :=
              tokenLength_eq_zero_of_head (by rw [alphanumeric]; rfl) run
            rw [tokenLength_of_ne_backslash _ ne, if_pos spaces] at none
            exact absurd none Nat.one_ne_zero
      · rw [withoutSeparators_token separator, ih.withoutSeparators_eq]

/-- Texts with a separator between them show what they show apart, with what the separator shows
between. -/
theorem intercalate {separator between : Text} {pieces showns : List Text}
    (separates : Shows separator between) (each : List.Forall₂ Shows pieces showns) :
    Shows (List.intercalate separator pieces) (List.intercalate between showns) := by
  cases each with
  | nil => exact nil
  | cons first others =>
      rw [intercalate_cons, intercalate_cons]
      refine first.append ?_
      induction others with
      | nil => exact nil
      | cons second _ ih => exact (separates.append second).append ih

end Shows

end Text

end MathGrammar
