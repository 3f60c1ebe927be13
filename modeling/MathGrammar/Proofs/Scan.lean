import MathGrammar.Command.Parser

/-! # Elementary readers as scanners

A scanner looks at the rest of the text and at nothing else: it gives a value with the number of
characters that it takes up, or a complaint. Every elementary reader is one. -/

namespace MathGrammar

namespace Parser

variable {α : Type}

/-- Read what `look` finds in the rest of the text. -/
def scan (look : Text → Except Complaint (α × Nat)) : Parser α := fun cursor =>
  match look cursor.rest with
  | .ok (value, length) => .ok value (cursor.advance length)
  | .error complaint => .fail (complaint.located cursor.offset)

/-- A scanner gives what it finds in front of the rest, and ends behind as many characters as it
says. -/
theorem scan_eq_ok {look : Text → Except Complaint (α × Nat)} {cursor next : Cursor}
    {value : α} : scan look cursor = .ok value next ↔
      ∃ length, look cursor.rest = .ok (value, length) ∧ cursor.advance length = next := by
  unfold scan
  cases look cursor.rest with
  | error complaint => simp
  | ok found =>
      obtain ⟨read, length⟩ := found
      constructor
      · intro run
        obtain ⟨rfl, rfl⟩ := Outcome.ok.inj run
        exact ⟨length, rfl, rfl⟩
      · rintro ⟨length', found, rfl⟩
        obtain ⟨rfl, rfl⟩ := Prod.mk.inj (Except.ok.inj found)
        rfl

end Parser

/-! ### What the elementary readers look for -/

/-- The name of a command in front of the text. -/
def nameAhead : Text → Except Complaint (Text × Nat)
  | '\\' :: rest =>
    let name := rest.takeWhile Char.isAlphanum
    if name.isEmpty then .error ⟨.unexpectedToken, .command⟩ else .ok (name, name.length + 1)
  | _ => .error ⟨.unexpectedToken, .command⟩

/-- The parameters in front of the text, none when there is no list of them. -/
def paramsAhead : Text → Except Complaint (List Text × Nat)
  | '[' :: rest =>
    let inside := rest.takeWhile fun c => c.isAlphanum || c == ','
    let names := Text.splitOn ',' inside
    if names.all (fun name => !name.isEmpty) && [']'].isPrefixOf (rest.drop inside.length) then
      .ok (names, inside.length + 2)
    else
      .ok ([], 0)
  | _ => .ok ([], 0)

/-- The mark of repetition in front of the text, if there is one. -/
def repetitionAhead (text : Text) : Except Complaint (Option Repetition × Nat) :=
  match Repetition.all.find? fun kind => kind.mark.isPrefixOf text with
  | some kind => .ok (some kind, kind.mark.length)
  | none => .ok (none, 0)

/-- The rest of a literal argument in front of the text. -/
def literalArgumentAhead (text : Text) : Except Complaint (Argument × Nat) :=
  match scanLiteral? 0 text with
  | some (content, length) => .ok (.literal content, length)
  | none => .error ⟨.unexpectedToken, .token ['\x7d']⟩

/-- The given characters in front of the text. -/
def charactersAhead (characters text : Text) : Except Complaint (Unit × Nat) :=
  if characters.isPrefixOf text then
    .ok ((), characters.length)
  else
    .error ⟨.unexpectedToken, .token characters⟩

namespace Parser

/-- The name of a command is told from the text in front alone. -/
theorem commandName_eq_scan : commandName = scan nameAhead := by
  funext cursor
  unfold commandName scan nameAhead
  generalize cursor.rest = text
  split
  · rename_i rest
    simp only
    by_cases empty : (rest.takeWhile Char.isAlphanum).isEmpty
    · rw [if_pos empty, if_pos empty]
      rfl
    · rw [if_neg empty, if_neg empty]
  · rename_i text_ne
    split <;> simp_all [Complaint.located]

/-- The parameters of a command are told from the text in front alone. -/
theorem params_eq_scan : params = scan paramsAhead := by
  funext cursor
  unfold params scan paramsAhead
  generalize cursor.rest = text
  split
  · simp only
    split <;> rfl
  · rename_i text_ne
    split
    · rename_i value length found
      obtain ⟨rfl, rfl⟩ : [] = value ∧ 0 = length := by simpa [text_ne] using found
      rfl
    · simp_all

/-- A mark of repetition is told from the text in front alone. -/
theorem repetition_eq_scan : repetition = scan repetitionAhead := by
  funext cursor
  unfold repetition scan repetitionAhead
  cases Repetition.all.find? fun kind => kind.mark.isPrefixOf cursor.rest <;> rfl

/-- A literal is told from the text in front alone. -/
theorem literalArgument_eq_scan : literalArgument = scan literalArgumentAhead := by
  funext cursor
  unfold literalArgument scan literalArgumentAhead
  cases scanLiteral? 0 cursor.rest <;> rfl

/-- A sign is told from the text in front alone. -/
theorem literal_eq_scan (characters : Text) :
    literal characters = scan (charactersAhead characters) := by
  funext cursor
  unfold literal scan charactersAhead
  cases characters.isPrefixOf cursor.rest <;> rfl

/-- The spacing to be skipped is told from the text in front alone. -/
theorem skip_eq_scan (spacing : Spacing) :
    skip spacing = scan fun text => .ok ((), spacing.runLength text) := rfl

end Parser

end MathGrammar
