import MathGrammar.Command.Parser
import MathGrammar.Proofs.Text

/-! # Literals

What a literal argument holds. The braces inside it come in pairs, which are dropped and may be
nested as deeply as one likes: a balanced literal is scanned up to its end with any number of braces
open around it, and adds its characters to what is scanned behind it. -/

namespace MathGrammar

/-! ### Character by character -/

/-- An opening brace is left out, and one brace more has to be closed behind it. -/
theorem scanLiteral?_opening (depth : Nat) (rest : Text) :
    scanLiteral? depth ('\x7b' :: rest)
      = (scanLiteral? (depth + 1) rest).map fun (content, length) => (content, length + 1) := by
  rw [scanLiteral?.eq_def]
  exact if_pos rfl

/-- A closing brace ends the literal when no other is open. -/
theorem scanLiteral?_closing_zero (rest : Text) :
    scanLiteral? 0 ('\x7d' :: rest) = some ([], 1) := rfl

/-- A closing brace that closes another one is left out. -/
theorem scanLiteral?_closing_succ (depth : Nat) (rest : Text) :
    scanLiteral? (depth + 1) ('\x7d' :: rest)
      = (scanLiteral? depth rest).map fun (content, length) => (content, length + 1) := rfl

/-- A plain character is kept, and any other one spoils the literal. -/
theorem scanLiteral?_other (depth : Nat) {c : Char} (notOpening : c ≠ '\x7b')
    (notClosing : c ≠ '\x7d') (rest : Text) :
    scanLiteral? depth (c :: rest) = if isLiteralChar c then
      (scanLiteral? depth rest).map fun (content, length) => (c :: content, length + 1)
    else none := by
  rw [scanLiteral?.eq_def]
  simp only [if_neg notOpening, if_neg notClosing]

/-- A plain character is neither a brace nor a backslash. -/
theorem ne_of_isLiteralChar {c : Char} (plain : isLiteralChar c = true) :
    c ≠ '\x7b' ∧ c ≠ '\x7d' ∧ c ≠ '\\' := by
  refine ⟨?_, ?_, ?_⟩ <;>
  · rintro rfl
    exact absurd plain (by decide)

/-! ### Balanced literals -/

/-- A text of plain characters and of braces in pairs, with its content, in which the braces are
left out. -/
inductive BalancedLiteral : Text → Text → Prop where
  /-- Nothing. -/
  | nil : BalancedLiteral [] []
  /-- A plain character. -/
  | char {c : Char} {text content : Text} (plain : isLiteralChar c = true)
    (more : BalancedLiteral text content) : BalancedLiteral (c :: text) (c :: content)
  /-- A pair of braces. -/
  | braces {inside insideContent text content : Text}
      (between : BalancedLiteral inside insideContent)
    (more : BalancedLiteral text content) :
    BalancedLiteral ('\x7b' :: (inside ++ '\x7d' :: text)) (insideContent ++ content)

namespace BalancedLiteral

variable {text content : Text}

/-- Plain characters are their own content. -/
theorem of_plain (plain : text.all isLiteralChar = true) : BalancedLiteral text text := by
  induction text with
  | nil => exact .nil
  | cons c text ih =>
      rw [List.all_cons, Bool.and_eq_true] at plain
      exact .char plain.1 (ih plain.2)

/-- A balanced literal only adds to what is scanned behind it, however many braces are open. -/
theorem scanLiteral?_append (balanced : BalancedLiteral text content) (depth : Nat)
    (after : Text) : scanLiteral? depth (text ++ after)
      = (scanLiteral? depth after).map fun (more, length) =>
          (content ++ more, text.length + length) := by
  -- On the literal; between two braces it is scanned with one brace more open.
  induction balanced generalizing depth after with
  | nil => simp
  | @char c text content plain _ ih =>
      obtain ⟨notOpening, notClosing, -⟩ := ne_of_isLiteralChar plain
      rw [List.cons_append, scanLiteral?_other depth notOpening notClosing, if_pos plain, ih,
        Option.map_map]
      congr 1
      funext scanned
      simp only [Function.comp_apply, List.cons_append, List.length_cons, Prod.mk.injEq, true_and]
      omega
  | @braces inside insideContent text content _ _ insideIH moreIH =>
      rw [List.cons_append, List.append_assoc, List.cons_append, scanLiteral?_opening, insideIH,
        scanLiteral?_closing_succ, moreIH]
      simp only [Option.map_map]
      congr 1
      funext scanned
      simp only [Function.comp_apply, List.append_assoc, List.length_cons, List.length_append,
        Prod.mk.injEq, true_and]
      omega

/-- A balanced literal is scanned up to the brace behind it. -/
theorem scanLiteral?_closed (balanced : BalancedLiteral text content) (after : Text) :
    scanLiteral? 0 (text ++ '\x7d' :: after) = some (content, text.length + 1) := by
  rw [balanced.scanLiteral?_append, scanLiteral?_closing_zero, Option.map_some]
  simp only [List.append_nil]

/-- A balanced literal, up to the brace behind it, is no command. -/
theorem headNot_backslash (balanced : BalancedLiteral text content) (after : Text) :
    (text ++ '\x7d' :: after).HeadNot (· == '\\') := by
  cases balanced with
  | nil =>
      rintro c ⟨⟩
      rfl
  | char plain more =>
      rintro c ⟨⟩
      exact beq_eq_false_iff_ne.2 (ne_of_isLiteralChar plain).2.2
  | braces between more =>
      rintro c ⟨⟩
      rfl

end BalancedLiteral

end MathGrammar
