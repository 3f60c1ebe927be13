import MathGrammar.Production.Basic
import MathGrammar.Proofs.Command.RoundTrip
import MathGrammar.Symbol.Parser

/-! # Readable symbols and productions

The written form of a symbol keeps its name and its repetition only, so it can be read back just
when the name is the name of a command that is read as such a symbol. Between the symbols of a case
one more thing must not happen: a nonterminal in front of the command for an arrow and another
nonterminal would be read as an arrow. -/

namespace MathGrammar

open Spacing

/-! ### Names of commands -/

/-- The spacing words, without the backslash. -/
def spacingWords : List Text := [['q', 'u', 'a', 'd'], ['q', 'q', 'u', 'a', 'd']]

/-- Whether the text, behind a backslash, names a command and is not taken for spacing. -/
def isCommandName (name : Text) : Bool :=
  isName name && Spacing.inline.tokenLength ('\\' :: name) == 0

/-- A name is taken for spacing just when it is a spacing word with no letter behind it. -/
theorem tokenLength_name_eq_zero_iff {spacing : Spacing} {name after : Text}
    (named : isName name = true) (head : after.HeadNot Char.isAlphanum) :
    spacing.tokenLength ('\\' :: (name ++ after)) = 0 ↔
      ∀ word ∈ spacingWords, ∀ rest, name = word ++ rest → startsWithLetter rest = true := by
  -- What follows the name does not start with a letter either.
  have noLetter : ∀ rest : Text, startsWithLetter (rest ++ after) = startsWithLetter rest := by
    intro rest
    cases rest with
    | cons c rest => rfl
    | nil =>
        cases after with
        | nil => rfl
        | cons c after =>
            have outside := head c rfl
            rw [Char.isAlphanum, Bool.or_eq_false_iff] at outside
            exact outside.1
  constructor
  · intro none word mem rest name_eq
    rw [← Bool.not_eq_false]
    intro follows
    have shape : Token spacing ('\\' :: word) (rest ++ after) :=
      .word mem ((noLetter rest).trans follows)
    have length_eq := shape.tokenLength_append
    rw [List.cons_append, ← List.append_assoc, ← name_eq, none] at length_eq
    simp at length_eq
  · intro words
    by_cases none : spacing.tokenLength ('\\' :: (name ++ after)) = 0
    · exact none
    · obtain ⟨token, rest, shape, text_eq⟩ := exists_token none
      cases shape with
      | char ne => exact absurd (List.cons.inj text_eq).1.symm ne
      | @pair c short =>
          -- A name starts with a letter or digit, and no short token does.
          obtain ⟨d, name, rfl⟩ := List.exists_cons_of_ne_nil (ne_nil_of_isName named)
          obtain ⟨rfl, -⟩ := List.cons.inj (List.cons.inj text_eq).2
          have alphanumeric := List.all_eq_true.1 (all_of_isName named) d List.mem_cons_self
          rcases short with short | ⟨rfl, -⟩
          · simp only [List.contains_eq_mem, List.mem_cons, List.not_mem_nil, or_false,
              decide_eq_true_eq] at short
            rcases short with rfl | rfl | rfl | rfl | rfl <;> exact absurd alphanumeric (by decide)
          · exact absurd alphanumeric (by decide)
      | @word word _ mem follows =>
          have text_eq : name ++ after = word ++ rest := (List.cons.inj text_eq).2
          have letters : word.all Char.isAlphanum = true := by
            simp only [List.mem_cons, List.not_mem_nil, or_false] at mem
            rcases mem with rfl | rfl <;> rfl
          -- The word lies within the name, which is the longest run of letters and digits.
          have within : word <+: name := by
            have taken := takeWhile_append_of_headNot (all_of_isName named) head
            rw [text_eq, List.takeWhile_append_of_pos (List.all_eq_true.1 letters)] at taken
            exact ⟨_, taken⟩
          obtain ⟨more, rfl⟩ := within
          rw [List.append_assoc] at text_eq
          rw [← List.append_cancel_left text_eq, noLetter] at follows
          rw [words word mem more rfl] at follows
          simp at follows

/-- A name is that of a command when every word for spacing in front of it goes on with a letter. -/
theorem isCommandName_iff {name : Text} : isCommandName name = true ↔ isName name = true ∧
    ∀ word ∈ spacingWords, ∀ rest, name = word ++ rest → startsWithLetter rest = true := by
  rw [isCommandName, Bool.and_eq_true, beq_iff_eq]
  refine and_congr_right fun named => ?_
  have nothing : Text.HeadNot Char.isAlphanum [] := nofun
  have words : Spacing.inline.tokenLength ('\\' :: (name ++ [])) = 0 ↔ _ :=
    tokenLength_name_eq_zero_iff named nothing
  rwa [List.append_nil] at words

/-- A command name is no spacing, whatever the kind of spacing and whatever stands behind it. -/
theorem tokenLength_eq_zero_of_isCommandName {spacing : Spacing} {name after : Text}
    (named : isCommandName name = true) (head : after.HeadNot Char.isAlphanum) :
    spacing.tokenLength ('\\' :: (name ++ after)) = 0 := by
  obtain ⟨named, words⟩ := isCommandName_iff.1 named
  exact (tokenLength_name_eq_zero_iff named head).2 words

/-- A name that is not taken for spacing is that of a command. -/
theorem isCommandName_of_tokenLength_eq_zero {name after : Text} (named : isName name = true)
    (head : after.HeadNot Char.isAlphanum)
    (none : Spacing.inline.tokenLength ('\\' :: (name ++ after)) = 0) :
    isCommandName name = true :=
  isCommandName_iff.2 ⟨named, (tokenLength_name_eq_zero_iff named head).1 none⟩

/-! ### Symbols -/

/-- Whether the nonterminal is read back. -/
def Nonterminal.readable (nonterminal : Nonterminal) : Bool :=
  isCommandName nonterminal.name && nonterminal.name.lettersLower
    && !structuralNames.contains nonterminal.name

/-- Whether the terminal is read back where no nonterminal may stand. -/
def Terminal.readable (terminal : Terminal) : Bool :=
  isCommandName terminal.name && terminal.name.lettersUpper
    && !(terminal.name == terminalEscape || terminal.name == nonterminalEscape)

/-- Whether the value of a field is read back. -/
def FieldValue.readable : FieldValue → Bool
  | .vector v => v.element.readable
  | .nonterminal n => n.readable

/-- Whether the record is read back. -/
def Record.readable (record : Record) : Bool :=
  !record.fields.isEmpty && record.fields.all fun (key, value) => key.readable && value.readable

/-- Whether the symbol is read back. A terminal without letters would pass for a nonterminal. -/
def Symbol.readable : Symbol → Bool
  | .record r => r.readable
  | .arrow a => a.source.readable && a.target.readable
  | .bracedVector b => b.vector.element.readable
  | .vector v => v.element.readable
  | .nonterminal n => n.readable
  | .terminal t => t.readable && !t.name.lettersLower

/-! ### Cases -/

/-- The name of the nonterminal that the symbol starts with, when it is taken by itself. -/
def Symbol.leadingName? : Symbol → Option Text
  | .nonterminal n => some n.name
  | .arrow a => some a.source.name
  | .vector _ => some ['v', 'e', 'c']
  | _ => none

/-- Whether the symbols, behind a nonterminal, would be read as the rest of an arrow. -/
def Symbol.continueArrow : List Symbol → Bool
  | .nonterminal n :: next :: _ => n.name == ['t', 'o'] && next.leadingName?.isSome
  | .arrow a :: _ => a.source.name == ['t', 'o']
  | _ => false

/-- Whether no nonterminal among the symbols is followed by the rest of an arrow. -/
def Symbol.noneContinueArrow : List Symbol → Bool
  | [] => true
  | .nonterminal _ :: symbols => !continueArrow symbols && noneContinueArrow symbols
  | _ :: symbols => noneContinueArrow symbols

/-- Whether the case of a union is read back. -/
def Symbol.readableCase (symbols : List Symbol) : Bool :=
  !symbols.isEmpty && symbols.all Symbol.readable && noneContinueArrow symbols

/-! ### Productions -/

/-- Whether the cases are a single record, which is no union. -/
def RightHandSide.isLoneRecord : List (List Symbol) → Bool
  | [[.record _]] => true
  | _ => false

/-- Whether the right-hand side is read back. -/
def RightHandSide.readable : RightHandSide → Bool
  | .union cases => !cases.isEmpty && cases.all Symbol.readableCase && !isLoneRecord cases
  | .record r => r.readable

/-- Whether the production is read back: its label is a literal, its symbols are commands of any
name, and its right-hand side is read back. -/
def Production.readable (production : Production) : Bool :=
  production.label.all isLiteralChar && production.lhs.all (fun n => isCommandName n.name)
    && production.rhs.readable

/-! ### What readability gives -/

/-- A nonterminal is readable when its name is lower-case, no structural one and not taken for
spacing. -/
theorem Nonterminal.readable_iff {n : Nonterminal} : n.readable = true ↔
    isCommandName n.name = true ∧ n.name.lettersLower = true ∧ n.name ∉ structuralNames := by
  simp [Nonterminal.readable, and_assoc]

/-- A terminal is readable when its name is upper-case, no escape and not taken for spacing. -/
theorem Terminal.readable_iff {t : Terminal} : t.readable = true ↔ isCommandName t.name = true ∧
    t.name.lettersUpper = true ∧ t.name ≠ terminalEscape ∧ t.name ≠ nonterminalEscape := by
  simp [Terminal.readable, and_assoc]

/-- The name of a command is a name. -/
theorem isName_of_isCommandName {name : Text} (named : isCommandName name = true) :
    isName name = true :=
  (isCommandName_iff.1 named).1

end MathGrammar
