import MathGrammar.Proofs.Spacing
import MathGrammar.WholeText
import Mathlib.Order.Bounds.Basic

/-! # Skipping

Skipping spacing stops at the furthest place that is reached over spacing tokens alone. With line
breaks among the tokens it goes line by line: over the spacing on a line, and over the line break
that ends it. -/

namespace MathGrammar

namespace Spacing

variable {spacing : Spacing}

/-! ### Longest runs -/

/-- Line breaks are all that is added to the tokens on a line. -/
theorem token_separators_iff {token rest : Text} :
    Token .separators token rest ↔ Token .inline token rest ∨ token = ['\\', '\\'] := by
  constructor
  · intro shape
    cases shape with
    | char ne spaces => exact .inl (.char ne spaces rest)
    | word mem noLetter => exact .inl (.word mem noLetter)
    | pair short =>
        rcases short with short | ⟨rfl, -⟩
        · exact .inl (.pair (.inl short) rest)
        · exact .inr rfl
  · rintro (shape | rfl)
    · exact shape.separators
    · exact .pair (.inr ⟨rfl, rfl⟩) rest

/-- A run of inline spacing is one of separators. -/
theorem Tokens.separators {run rest : Text} (tokens : Tokens .inline run rest) :
    Tokens .separators run rest := by
  induction tokens with
  | nil => exact .nil _
  | cons first _ ih => exact .cons first.separators ih

/-- No run is longer than its text. -/
theorem runLength_le (spacing : Spacing) (text : Text) : spacing.runLength text ≤ text.length := by
  obtain ⟨run, rest, rfl, tokens, last⟩ := exists_run spacing text
  rw [tokens.runLength_append last, List.length_append]
  exact Nat.le_add_right _ _

/-- The longest run is a run, and no token follows it. -/
theorem tokens_take_runLength (spacing : Spacing) (text : Text) :
    Tokens spacing (text.take (spacing.runLength text)) (text.drop (spacing.runLength text)) ∧
      spacing.tokenLength (text.drop (spacing.runLength text)) = 0 := by
  obtain ⟨run, rest, rfl, tokens, last⟩ := exists_run spacing text
  rw [tokens.runLength_append last, List.take_left, List.drop_left]
  exact ⟨tokens, last⟩

/-! ### Line by line -/

/-- Behind the spacing on a line the spacing of both kinds goes on. -/
theorem runLength_separators_eq (text : Text) :
    Spacing.separators.runLength text = Spacing.inline.runLength text
      + Spacing.separators.runLength (text.drop (Spacing.inline.runLength text)) := by
  obtain ⟨tokens, -⟩ := tokens_take_runLength .inline text
  have whole := tokens.separators.runLength_append_add
  rwa [List.take_append_drop, List.length_take_of_le (runLength_le .inline text)] at whole

/-- Where no token on the line stands, only a line break can be a token. -/
theorem tokenLength_separators_eq_zero {text : Text} (none : Spacing.inline.tokenLength text = 0)
    (noBreak : ¬['\\', '\\'] <+: text) : Spacing.separators.tokenLength text = 0 := by
  by_contra found
  obtain ⟨token, more, shape, rfl⟩ := exists_token found
  rcases token_separators_iff.1 shape with shape | rfl
  · have length_eq := shape.tokenLength_append
    have positive := shape.length_pos
    omega
  · exact noBreak (List.prefix_append _ _)

/-! ### Places in a text -/

/-- Between the two places of the text there are spacing tokens and nothing else. What stands behind
the second place says whether a spacing word in front of it is a token. -/
def Fills (spacing : Spacing) (text : Text) (first last : Nat) : Prop :=
  first ≤ last ∧ last ≤ text.length ∧ Tokens spacing (text.extract first last) (text.drop last)

end Spacing

open Spacing

variable {text : Text} {offset : Nat} {spacing : Spacing}

/-- Inside of a text spacing is skipped by the length of the run in front. -/
theorem skipAt_eq (inside : offset ≤ text.length) (spacing : Spacing) :
    skipAt text offset spacing = offset + spacing.runLength (text.drop offset) := by
  rw [skipAt, Int.toNat_natCast, Nat.min_eq_left inside]
  rfl

/-- Skipping ends inside of the text. -/
theorem skipAt_le_length (inside : offset ≤ text.length) (spacing : Spacing) :
    skipAt text offset spacing ≤ text.length := by
  have shorter := runLength_le spacing (text.drop offset)
  rw [List.length_drop] at shorter
  rw [skipAt_eq inside]
  omega

/-- Nothing is skipped where no token stands. -/
theorem skipAt_eq_self_iff (inside : offset ≤ text.length) :
    skipAt text offset spacing = offset ↔ spacing.tokenLength (text.drop offset) = 0 := by
  rw [skipAt_eq inside]
  constructor
  · intro stays
    obtain ⟨-, last⟩ := tokens_take_runLength spacing (text.drop offset)
    rwa [show spacing.runLength (text.drop offset) = 0 by omega, List.drop_zero] at last
  · intro none
    rw [runLength_eq_zero none, Nat.add_zero]

/-- No token starts where skipping ends. -/
theorem tokenLength_drop_skipAt (inside : offset ≤ text.length) (spacing : Spacing) :
    spacing.tokenLength (text.drop (skipAt text offset spacing)) = 0 := by
  rw [skipAt_eq inside, ← List.drop_drop]
  exact (tokens_take_runLength spacing (text.drop offset)).2

/-- No place further on is reached over tokens alone. -/
theorem isGreatest_skipAt (inside : offset ≤ text.length) (spacing : Spacing) :
    IsGreatest {last | spacing.Fills text offset last} (skipAt text offset spacing) := by
  constructor
  · refine ⟨?_, skipAt_le_length inside spacing, ?_⟩
    · rw [skipAt_eq inside]
      exact Nat.le_add_right _ _
    · rw [skipAt_eq inside, List.extract_eq_take_drop, Nat.add_sub_cancel_left, ← List.drop_drop]
      exact (tokens_take_runLength spacing (text.drop offset)).1
  · rintro last ⟨notBefore, notBehind, tokens⟩
    -- The tokens up to the place are the first part of the longest run.
    have rest_eq : text.drop offset = text.extract offset last ++ text.drop last := by
      rw [List.extract_eq_take_drop, ← Nat.add_sub_cancel' notBefore, ← List.drop_drop,
        Nat.add_sub_cancel_left, List.take_append_drop]
    have length_eq : (text.extract offset last).length = last - offset := by
      rw [List.extract_eq_take_drop, List.length_take, List.length_drop]
      omega
    rw [skipAt_eq inside, rest_eq, tokens.runLength_append_add, length_eq]
    omega

/-- By turns the spacing on a line and a single line break, from one place of the text to the place
where no line break stands behind the spacing. -/
inductive LineByLine (text : Text) : Nat → Nat → Prop where
  /-- The spacing on the last line. -/
  | last {first stop : Nat} (run : skipAt text first .inline = stop)
    (noBreak : ¬['\\', '\\'] <+: text.drop stop) : LineByLine text first stop
  /-- The spacing on a line, the line break behind it, and the lines behind that. -/
  | lineBreak {first stop final : Nat} (run : skipAt text first .inline = stop)
    (breaks : ['\\', '\\'] <+: text.drop stop) (others : LineByLine text (stop + 2) final) :
    LineByLine text first final

/-- Skipping inline spacing first does not change where the separators end. -/
theorem skipAt_separators_skipAt_inline (inside : offset ≤ text.length) :
    skipAt text (skipAt text offset .inline) .separators = skipAt text offset .separators := by
  rw [skipAt_eq (skipAt_le_length inside .inline), skipAt_eq inside, skipAt_eq inside,
    runLength_separators_eq (text.drop offset), List.drop_drop, Nat.add_assoc]

/-- Behind the spacing on a line nothing else is skipped, unless a line break stands there. -/
theorem skipAt_separators_of_noBreak (inside : offset ≤ text.length)
    (noBreak : ¬['\\', '\\'] <+: text.drop (skipAt text offset .inline)) :
    skipAt text offset .separators = skipAt text offset .inline := by
  rw [← skipAt_separators_skipAt_inline inside,
    skipAt_eq_self_iff (skipAt_le_length inside .inline)]
  exact tokenLength_separators_eq_zero (tokenLength_drop_skipAt inside .inline) noBreak

/-- A line break is skipped in front of what is skipped behind it. -/
theorem skipAt_separators_of_lineBreak (inside : offset ≤ text.length)
    (breaks : ['\\', '\\'] <+: text.drop offset) : offset + 2 ≤ text.length ∧
      skipAt text offset .separators = skipAt text (offset + 2 : Nat) .separators := by
  obtain ⟨more, rest_eq⟩ := breaks
  have room : offset + 2 ≤ text.length := by
    have length_eq := congrArg List.length rest_eq
    simp only [List.length_append, List.length_cons, List.length_nil, List.length_drop] at length_eq
    omega
  have lineBreak : Token .separators ['\\', '\\'] more := .pair (.inr ⟨rfl, rfl⟩) more
  have behind : text.drop (offset + 2) = more := by
    rw [← List.drop_drop, ← rest_eq]
    rfl
  refine ⟨room, ?_⟩
  rw [skipAt_eq inside, skipAt_eq room, behind, ← rest_eq, runLength_append lineBreak,
    Nat.add_assoc]
  rfl

/-- Going line by line ends where the separators are skipped at once, and nowhere else. -/
theorem lineByLine_iff (inside : offset ≤ text.length) {final : Nat} :
    LineByLine text offset final ↔ final = skipAt text offset .separators := by
  constructor
  · intro lines
    induction lines with
    | last run noBreak =>
        subst run
        exact (skipAt_separators_of_noBreak inside noBreak).symm
    | lineBreak run breaks _ ih =>
        subst run
        obtain ⟨room, skipped⟩ :=
          skipAt_separators_of_lineBreak (skipAt_le_length inside .inline) breaks
        rw [ih room, ← skipped, skipAt_separators_skipAt_inline inside]
  · rintro rfl
    -- On what is left of the text, as every line break leaves less of it.
    induction left : text.length - offset using Nat.strongRecOn generalizing offset with
    | ind n ih =>
        by_cases breaks : ['\\', '\\'] <+: text.drop (skipAt text offset .inline)
        · obtain ⟨room, skipped⟩ :=
            skipAt_separators_of_lineBreak (skipAt_le_length inside .inline) breaks
          have notBefore : offset ≤ skipAt text offset .inline :=
            (isGreatest_skipAt inside .inline).1.1
          rw [← skipAt_separators_skipAt_inline inside, skipped]
          exact .lineBreak rfl breaks (ih _ (by omega) room rfl)
        · rw [skipAt_separators_of_noBreak inside breaks]
          exact .last rfl breaks

/-! ### The main result -/

/-- **Skipping is maximal, idempotent and layered.** Spacing of either kind is skipped up to the
furthest place that is reached over its tokens alone, so that skipping it again changes nothing, and
neither does dropping the separators of a text again. Skipping separators behind the spacing on the
line ends where skipping them at once does, and that is where spacing on lines and single line
breaks by turns end. -/
theorem skipAt_maximal_and_layered (text : Text) (offset : Nat) (inside : offset ≤ text.length) :
    (∀ spacing : Spacing,
      IsGreatest {last | spacing.Fills text offset last} (skipAt text offset spacing) ∧
      skipAt text (skipAt text offset spacing) spacing = skipAt text offset spacing) ∧
    text.dropSeparators.dropSeparators = text.dropSeparators ∧
    skipAt text (skipAt text offset .inline) .separators = skipAt text offset .separators ∧
    ∀ final, LineByLine text offset final ↔ final = skipAt text offset .separators := by
  refine ⟨fun spacing => ⟨isGreatest_skipAt inside spacing, ?_⟩, ?_,
    skipAt_separators_skipAt_inline inside, fun final => lineByLine_iff inside⟩
  · rw [skipAt_eq_self_iff (skipAt_le_length inside spacing)]
    exact tokenLength_drop_skipAt inside spacing
  · have nothing : Spacing.separators.runLength text.dropSeparators = 0 :=
      runLength_eq_zero (tokens_take_runLength .separators text).2
    rw [Text.dropSeparators, nothing, List.drop_zero]

/-- Two lines of spacing, with a spacing word in front of the line break and a longer command behind
the second line. -/
theorem skipAt_maximal_on_two_lines :
    let text : Text := "a&\\quad\\\\\\ \\qquadb".toList
    1 ≤ text.length ∧ skipAt text (1 : Nat) .inline = 7 ∧
      IsGreatest {last | Spacing.separators.Fills text 1 last} 11 ∧
      skipAt text (7 : Nat) .separators = 11 ∧ LineByLine text 1 11 := by
  intro text
  have inside : 1 ≤ text.length := by decide
  have line : skipAt text (1 : Nat) .inline = 7 := by decide +kernel
  have lines : skipAt text (1 : Nat) .separators = 11 := by decide +kernel
  obtain ⟨maximal, -, layered, byLine⟩ := skipAt_maximal_and_layered text 1 inside
  have furthest := (maximal .separators).1
  rw [lines] at furthest layered
  rw [line] at layered
  exact ⟨inside, line, furthest, layered, (byLine 11).2 lines.symm⟩

end MathGrammar
