import MathGrammar.Proofs.Command.WellFormed
import MathGrammar.Proofs.Scan
import MathGrammar.Proofs.Simulation.Readers
import MathGrammar.Proofs.Spacing

/-! # What readers take up

Every backslash that a reader takes up comes with the character behind it, so no reader stops
between the two. A pair of backslashes is taken up only as a line break: by the spacing between
productions and cases, and at the end of a production. -/

namespace MathGrammar

/-- A text of single characters and of backslashes that each come with the character behind; that
one is a backslash only where line breaks count as spacing. -/
inductive Units (spacing : Spacing) : Text → Prop where
  /-- The empty text. -/
  | nil : Units spacing []
  /-- A character. -/
  | char {c : Char} {text : Text} (ne : c ≠ '\\') (others : Units spacing text) :
    Units spacing (c :: text)
  /-- A backslash and the character behind it. -/
  | pair {c : Char} {text : Text} (lineBreak : c = '\\' → spacing = .separators)
    (others : Units spacing text) : Units spacing ('\\' :: c :: text)

namespace Units

variable {spacing : Spacing}

/-- Texts that consist of units do so together. -/
theorem append {text more : Text} (first : Units spacing text) (second : Units spacing more) :
    Units spacing (text ++ more) := by
  induction first with
  | nil => exact second
  | char ne _ ih => exact .char ne ih
  | pair lineBreak _ ih => exact .pair lineBreak ih

/-- What consists of units for inline spacing does so for the separators too, which have more of
them. -/
theorem of_inline {text : Text} (units : Units .inline text) : Units spacing text := by
  induction units with
  | nil => exact .nil
  | char ne _ ih => exact .char ne ih
  | pair lineBreak _ ih => exact .pair (fun h => absurd (lineBreak h) nofun) ih

/-- A text without a backslash consists of its characters. -/
theorem of_notMem {text : Text} (noBackslash : '\\' ∉ text) : Units spacing text := by
  induction text with
  | nil => exact .nil
  | cons c text ih =>
      rw [List.mem_cons, not_or] at noBackslash
      exact .char (Ne.symm noBackslash.1) (ih noBackslash.2)

/-- Every token of spacing is a unit. -/
theorem of_token {token rest : Text} (shape : Spacing.Token spacing token rest) :
    Units spacing token := by
  cases shape with
  | char ne => exact .char ne .nil
  | word mem =>
      simp only [List.mem_cons, List.not_mem_nil, or_false] at mem
      rcases mem with rfl | rfl <;> exact .pair nofun (of_notMem (by decide))
  | pair short =>
      refine .pair (fun h => ?_) .nil
      rcases short with short | ⟨-, lineBreak⟩
      · subst h
        exact absurd short (by decide)
      · exact lineBreak

/-- A run of spacing consists of units. -/
theorem of_tokens {run rest : Text} (tokens : Spacing.Tokens spacing run rest) :
    Units spacing run := by
  induction tokens with
  | nil => exact .nil
  | cons first _ ih => exact (of_token first).append ih

end Units

/-! ### Scanners -/

/-- What the scanner finds in front of a text is made of units. -/
def TakesUnits {α : Type} (spacing : Spacing) (look : Text → Except Complaint (α × Nat)) : Prop :=
  ∀ ⦃text : Text⦄ ⦃value : α⦄ ⦃length : Nat⦄, look text = .ok (value, length) →
    ∃ taken rest, text = taken ++ rest ∧ taken.length = length ∧ Units spacing taken

section Scanners

variable {spacing : Spacing}

/-- A scanner that takes up units for inline spacing takes up units for any spacing. -/
theorem TakesUnits.of_inline {α : Type} {look : Text → Except Complaint (α × Nat)}
    (takes : TakesUnits .inline look) : TakesUnits spacing look := by
  intro text value length found
  obtain ⟨taken, rest, text_eq, length_eq, units⟩ := takes found
  exact ⟨taken, rest, text_eq, length_eq, units.of_inline⟩

/-- The name of a command is taken up in units: its backslash together with its first letter. -/
theorem takesUnits_nameAhead : TakesUnits spacing nameAhead := by
  intro text name length found
  unfold nameAhead at found
  split at found
  · rename_i rest
    dsimp only at found
    split at found
    · simp at found
    · rename_i nonempty
      obtain ⟨rfl, rfl⟩ := Prod.mk.inj (Except.ok.inj found)
      have noBackslash : '\\' ∉ rest.takeWhile Char.isAlphanum := by
        intro mem
        exact absurd (List.all_eq_true.1 List.all_takeWhile _ mem) (by decide)
      refine ⟨'\\' :: rest.takeWhile Char.isAlphanum, rest.dropWhile Char.isAlphanum, ?_, rfl, ?_⟩
      · rw [List.cons_append, List.takeWhile_append_dropWhile]
      · generalize rest.takeWhile Char.isAlphanum = name at nonempty noBackslash
        -- The backslash of the command makes a unit with the first character of the name.
        cases name with
        | nil => simp at nonempty
        | cons c name =>
            rw [List.mem_cons, not_or] at noBackslash
            exact .pair (fun c_eq => absurd c_eq.symm noBackslash.1) (.of_notMem noBackslash.2)
  · simp at found

/-- The parameters of a command hold no backslash, and so they are taken up in units. -/
theorem takesUnits_paramsAhead : TakesUnits spacing paramsAhead := by
  intro text names length found
  unfold paramsAhead at found
  split at found
  · rename_i rest
    dsimp only at found
    -- Nothing is taken up when the list is not closed, and otherwise no backslash.
    have inside : '\\' ∉ rest.takeWhile fun c => c.isAlphanum || c == ',' := by
      intro mem
      exact absurd (List.all_eq_true.1 List.all_takeWhile _ mem) (by decide)
    obtain ⟨more, text_eq⟩ := List.takeWhile_prefix (l := rest) fun c => c.isAlphanum || c == ','
    generalize (rest.takeWhile fun c => c.isAlphanum || c == ',') = taken at *
    subst text_eq
    split at found
    · rename_i closed
      obtain ⟨-, rfl⟩ := Prod.mk.inj (Except.ok.inj found)
      rw [Bool.and_eq_true, List.drop_left, List.isPrefixOf_iff_prefix] at closed
      obtain ⟨after, rfl⟩ := closed.2
      refine ⟨'[' :: (taken ++ [']']), after, by simp, by simp, ?_⟩
      exact .char (by decide) ((Units.of_notMem inside).append (.char (by decide) .nil))
    · obtain ⟨-, rfl⟩ := Prod.mk.inj (Except.ok.inj found)
      exact ⟨[], _, rfl, rfl, .nil⟩
  · obtain ⟨-, rfl⟩ := Prod.mk.inj (Except.ok.inj found)
    exact ⟨[], _, rfl, rfl, .nil⟩

/-- Every mark of repetition consists of units. -/
theorem units_mark (kind : Repetition) : Units spacing kind.mark := by
  cases kind with
  | many => exact .char (by decide) (.pair nofun (.of_notMem (by decide)))
  | optional | nonEmpty | counted => exact .of_notMem (by decide)

/-- A mark of repetition is taken up whole. -/
theorem takesUnits_repetitionAhead : TakesUnits spacing repetitionAhead := by
  intro text repetition length found
  unfold repetitionAhead at found
  split at found
  · rename_i kind isMark
    obtain ⟨-, rfl⟩ := Prod.mk.inj (Except.ok.inj found)
    have isPrefix : kind.mark.isPrefixOf text = true := by simpa using List.find?_some isMark
    obtain ⟨rest, rfl⟩ := List.isPrefixOf_iff_prefix.1 isPrefix
    exact ⟨kind.mark, rest, rfl, rfl, units_mark kind⟩
  · obtain ⟨-, rfl⟩ := Prod.mk.inj (Except.ok.inj found)
    exact ⟨[], text, rfl, rfl, .nil⟩

/-- What is scanned as a literal stands in front of the text and holds no backslash. -/
theorem exists_of_scanLiteral? {depth length : Nat} {text content : Text}
    (scanned : scanLiteral? depth text = some (content, length)) :
    ∃ taken rest, text = taken ++ rest ∧ taken.length = length ∧ '\\' ∉ taken := by
  induction text generalizing depth content length with
  | nil => simp [scanLiteral?] at scanned
  | cons c text ih =>
      -- Only the brace that closes the literal ends the scan; all else is taken with the rest.
      have more : ∀ {inner n m : _}, c ≠ '\\' → scanLiteral? inner text = some (n, m) →
          ∃ taken rest, c :: text = taken ++ rest ∧ taken.length = m + 1 ∧
            '\\' ∉ taken := by
        intro inner n m ne found
        obtain ⟨taken, rest, rfl, rfl, noBackslash⟩ := ih found
        refine ⟨c :: taken, rest, rfl, rfl, ?_⟩
        rw [List.mem_cons, not_or]
        exact ⟨ne.symm, noBackslash⟩
      unfold scanLiteral? at scanned
      split at scanned
      · rename_i opening
        obtain ⟨⟨inner, n⟩, found, eq⟩ := Option.map_eq_some_iff.1 scanned
        obtain ⟨-, rfl⟩ := Prod.mk.inj eq
        exact more (by simp [opening]) found
      · split at scanned
        · rename_i closing
          split at scanned
          · obtain ⟨-, rfl⟩ := Prod.mk.inj (Option.some.inj scanned)
            exact ⟨[c], text, rfl, rfl, by simp [closing]⟩
          · obtain ⟨⟨inner, n⟩, found, eq⟩ := Option.map_eq_some_iff.1 scanned
            obtain ⟨-, rfl⟩ := Prod.mk.inj eq
            exact more (by simp [closing]) found
        · split at scanned
          · rename_i isLiteral
            obtain ⟨⟨inner, n⟩, found, eq⟩ := Option.map_eq_some_iff.1 scanned
            obtain ⟨-, rfl⟩ := Prod.mk.inj eq
            refine more ?_ found
            rintro rfl
            exact absurd isLiteral (by decide)
          · simp at scanned

/-- A literal argument is taken up in units. -/
theorem takesUnits_literalArgumentAhead : TakesUnits spacing literalArgumentAhead := by
  intro text arg length found
  unfold literalArgumentAhead at found
  split at found
  · rename_i content scannedLength scanned
    obtain ⟨-, rfl⟩ := Prod.mk.inj (Except.ok.inj found)
    obtain ⟨taken, rest, text_eq, length_eq, noBackslash⟩ := exists_of_scanLiteral? scanned
    exact ⟨taken, rest, text_eq, length_eq, .of_notMem noBackslash⟩
  · simp at found

/-- A sign that consists of units is taken up in units. -/
theorem takesUnits_charactersAhead {characters : Text} (units : Units spacing characters) :
    TakesUnits spacing (charactersAhead characters) := by
  intro text value length found
  unfold charactersAhead at found
  split at found
  · rename_i isPrefix
    obtain ⟨-, rfl⟩ := Prod.mk.inj (Except.ok.inj found)
    obtain ⟨rest, rfl⟩ := List.isPrefixOf_iff_prefix.1 isPrefix
    exact ⟨characters, rest, rfl, rfl, units⟩
  · simp at found

/-- Spacing is taken up in units, token by token. -/
theorem takesUnits_skip :
    TakesUnits spacing fun text => .ok ((), spacing.runLength text) := by
  intro text value length found
  obtain ⟨-, rfl⟩ := Prod.mk.inj (Except.ok.inj found)
  obtain ⟨run, rest, rfl, tokens, last⟩ := Spacing.exists_run spacing text
  exact ⟨run, rest, rfl, (tokens.runLength_append last).symm, .of_tokens tokens⟩

end Scanners

/-! ### Signs and marks -/

namespace Parser

variable {cursor next : Cursor}

/-- Where a sign was read it stood in front of what is left. -/
theorem exists_of_literal_eq_ok {characters : Text}
    (run : literal characters cursor = .ok () next) :
    cursor.rest = characters ++ next.rest := by
  unfold literal at run
  split at run
  · rename_i isPrefix
    obtain ⟨rest, rest_eq⟩ := List.isPrefixOf_iff_prefix.1 isPrefix
    obtain ⟨-, rfl⟩ := Outcome.ok.inj run
    rw [Cursor.rest_advance, ← rest_eq, List.drop_left]
  · exact absurd run nofun

/-- Where a mark of repetition was read, or none, its written form stood in front of what is
left. -/
theorem exists_of_repetition_eq_ok {mark : Option Repetition}
    (run : repetition cursor = .ok mark next) :
    cursor.rest = Repetition.suffix mark ++ next.rest := by
  unfold repetition at run
  split at run
  · rename_i kind found
    obtain ⟨rfl, rfl⟩ := Outcome.ok.inj run
    have isPrefix : kind.mark.isPrefixOf cursor.rest = true := by simpa using List.find?_some found
    obtain ⟨rest, rest_eq⟩ := List.isPrefixOf_iff_prefix.1 isPrefix
    rw [Cursor.rest_advance, Repetition.suffix_some, ← rest_eq, List.drop_left]
  · obtain ⟨rfl, rfl⟩ := Outcome.ok.inj run
    rfl

end Parser

/-! ### Whole readers -/

/-- The place is reached from the first one over units. -/
def Cursor.Reaches (spacing : Spacing) (first cursor : Cursor) : Prop :=
  ∃ taken, first.rest = taken ++ cursor.rest ∧ cursor.offset = first.offset + taken.length ∧
    Units spacing taken

namespace Simulation

variable {spacing : Spacing} {first : Cursor} {α : Type}

/-- A scanner that takes up units reaches only places that lie behind units. -/
theorem reaches_related_scan {look : Text → Except Complaint (α × Nat)}
    (takes : TakesUnits spacing look) :
    (invariant (first.Reaches spacing)).Related (Parser.scan look) (Parser.scan look) := by
  refine invariant_related ?_
  rintro cursor next value ⟨before, first_eq, offset_eq, units⟩ run
  obtain ⟨length, found, rfl⟩ := Parser.scan_eq_ok.1 run
  obtain ⟨taken, rest, rest_eq, rfl, more⟩ := takes found
  refine ⟨before ++ taken, ?_, ?_, units.append more⟩
  · rw [first_eq, rest_eq, Cursor.rest_advance, rest_eq, List.drop_left, List.append_assoc]
  · rw [Cursor.offset_advance, offset_eq, List.length_append, Nat.add_assoc]

/-- Every part of a command is taken up in units. -/
theorem reaches_relatesCommands : (invariant (first.Reaches spacing)).RelatesCommands where
  commandName := Parser.commandName_eq_scan ▸ reaches_related_scan takesUnits_nameAhead
  params := Parser.params_eq_scan ▸ reaches_related_scan takesUnits_paramsAhead
  repetition := Parser.repetition_eq_scan ▸ reaches_related_scan takesUnits_repetitionAhead
  literalArgument :=
    Parser.literalArgument_eq_scan ▸ reaches_related_scan takesUnits_literalArgumentAhead
  openBrace := Parser.literal_eq_scan _ ▸
    reaches_related_scan (takesUnits_charactersAhead (.of_notMem (by decide)))
  closeBrace := Parser.literal_eq_scan _ ▸
    reaches_related_scan (takesUnits_charactersAhead (.of_notMem (by decide)))
  inline := Parser.skip_eq_scan _ ▸ reaches_related_scan takesUnits_skip.of_inline

/-- Only a brace stands behind a backslash in a sign. -/
theorem brace_of_mem_signs {sign : Text} (mem : sign ∈ [':', ':', '='] :: signs)
    (backslash : '\\' ∈ sign) : sign = ['\\', '\x7b'] ∨ sign = ['\\', '\x7d'] := by
  simp only [signs, List.mem_cons, List.not_mem_nil, or_false] at mem
  rcases mem with rfl | rfl | rfl | rfl | rfl | rfl | rfl | rfl | rfl <;> simp_all

/-- Each sign of the notation consists of units. -/
theorem units_of_mem_signs {sign : Text} (mem : sign ∈ [':', ':', '='] :: signs) :
    Units spacing sign := by
  by_cases backslash : '\\' ∈ sign
  · rcases brace_of_mem_signs mem backslash with rfl | rfl
    · exact .pair nofun .nil
    · exact .pair nofun .nil
  · exact .of_notMem backslash

/-- All that is read in a block is taken up in units, whatever the limit. -/
theorem reaches_relatesBlocks (first : Cursor) (limit : Nat) :
    (invariant (first.Reaches .separators)).RelatesBlocks limit limit where
  command := reaches_relatesCommands.command (.inl rfl)
  sign characters mem := by
    refine Parser.literal_eq_scan _ ▸ reaches_related_scan (takesUnits_charactersAhead ?_)
    -- Of the signs only the line break needs that line breaks count as spacing.
    by_cases lineBreak : characters = ['\\', '\\']
    · subst lineBreak
      exact .pair (fun _ => rfl) .nil
    · simp only [productionSigns, List.mem_cons, lineBreak, false_or] at mem
      exact units_of_mem_signs (List.mem_cons.2 mem)
  skip spacing := by
    cases spacing with
    | inline => exact Parser.skip_eq_scan _ ▸ reaches_related_scan takesUnits_skip.of_inline
    | separators => exact Parser.skip_eq_scan _ ▸ reaches_related_scan takesUnits_skip
  beyond_iff := by
    rintro c _ fault _ ⟨rfl, -⟩ rfl
    exact Iff.rfl

end Simulation

end MathGrammar
