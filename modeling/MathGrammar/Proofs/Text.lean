import MathGrammar.Text.Lines

/-! # Pieces of text

Runs of characters in front of a text, texts with separators between them, and the pieces and the
lines that such texts split into. -/

namespace MathGrammar

/-! ### First characters -/

/-- The text does not start with one of the given characters. -/
def Text.HeadNot (chars : Char → Bool) (text : Text) : Prop := ∀ c ∈ text.head?, chars c = false

/-- A text does not start so when its first part does not and the second would not either. -/
theorem Text.HeadNot.append {chars : Char → Bool} {text more : Text} (first : text.HeadNot chars)
    (second : more.HeadNot chars) : (text ++ more).HeadNot chars := by
  cases text with
  | nil => exact second
  | cons c text => exact first

/-- If a text does not start so, neither does a part in front of it. -/
theorem Text.HeadNot.of_append {chars : Char → Bool} {text more : Text}
    (head : (text ++ more).HeadNot chars) : text.HeadNot chars := by
  cases text with
  | nil => exact nofun
  | cons c text => exact head

/-- A text that does not start with one of some characters does not start with one of fewer. -/
theorem Text.HeadNot.mono {chars others : Char → Bool} {text : Text} (head : text.HeadNot chars)
    (sub : ∀ c, others c = true → chars c = true) : text.HeadNot others := by
  intro c mem
  have outside := head c mem
  rw [Bool.eq_false_iff] at outside ⊢
  exact fun inside => outside (sub c inside)

/-- Characters of a kind are taken up to a text that starts with none of them. -/
theorem takeWhile_append_of_headNot {chars : Char → Bool} {text after : Text}
    (all : text.all chars = true) (head : after.HeadNot chars) :
    (text ++ after).takeWhile chars = text := by
  rw [List.takeWhile_append_of_pos (List.all_eq_true.1 all)]
  have none : after.takeWhile chars = [] := by
    cases after with
    | nil => rfl
    | cons c after => rw [List.takeWhile_cons, head c rfl, if_neg Bool.false_ne_true]
  rw [none, List.append_nil]

/-- A text that does not start with such a character adds nothing to a run of them. -/
theorem takeWhile_append_left {chars : Char → Bool} {text more : Text} (head : more.HeadNot chars) :
    (text ++ more).takeWhile chars = text.takeWhile chars := by
  induction text with
  | nil => exact takeWhile_append_of_headNot rfl head
  | cons c text ih =>
      rw [List.cons_append, List.takeWhile_cons, List.takeWhile_cons, ih]

/-! ### Separators -/

/-- The first piece, and then each other piece with the separator in front. -/
theorem intercalate_cons {α : Type} (separator first : List α) (rest : List (List α)) :
    List.intercalate separator (first :: rest)
      = first ++ rest.flatMap fun piece => separator ++ piece := by
  induction rest generalizing first with
  | nil => simp
  | cons second rest ih =>
      rw [List.intercalate_cons_cons, ih, List.flatMap_cons, List.append_assoc, List.append_assoc]

/-- The pieces with a separator behind the last one as well. -/
theorem intercalate_append {α : Type} (separator first : List α) (rest : List (List α)) :
    List.intercalate separator (first :: rest) ++ separator
      = (first :: rest).flatMap fun piece => piece ++ separator := by
  induction rest generalizing first with
  | nil => simp
  | cons second rest ih =>
      rw [List.intercalate_cons_cons, List.flatMap_cons, ← ih, List.append_assoc]

/-- What is in joined pieces is in one of the pieces or between them. -/
theorem mem_intercalate {α : Type} {separator : List α} {pieces : List (List α)} {x : α}
    (mem : x ∈ List.intercalate separator pieces) :
    x ∈ separator ∨ ∃ piece ∈ pieces, x ∈ piece := by
  cases pieces with
  | nil => simp at mem
  | cons first rest =>
      rw [intercalate_cons, List.mem_append, List.mem_flatMap] at mem
      rcases mem with inFirst | ⟨piece, pieceMem, inside⟩
      · exact .inr ⟨first, List.mem_cons_self, inFirst⟩
      · exact (List.mem_append.1 inside).imp_right fun inPiece =>
          ⟨piece, List.mem_cons_of_mem first pieceMem, inPiece⟩

/-- Splitting is that of the library. -/
theorem Text.splitOn_eq (separator : Char) (text : Text) :
    Text.splitOn separator text = List.splitOn separator text := by
  induction text with
  | nil => rfl
  | cons c text ih =>
      rw [Text.splitOn, List.splitOn_cons_eq_if_modifyHead, ih]
      -- Both split the rest first and then put the character in front.
      by_cases isSeparator : c = separator
      · simp [isSeparator]
      · rw [if_neg isSeparator, if_neg (by simpa using isSeparator)]
        cases split_eq : List.splitOn separator text with
        | nil => exact absurd split_eq (List.splitOn_ne_nil separator text)
        | cons piece pieces => rfl

/-- The pieces of a text hold its characters, the separator apart. -/
theorem mem_of_mem_splitOn {separator c : Char} {text piece : Text}
    (mem : piece ∈ Text.splitOn separator text) (inside : c ∈ piece) :
    c ∈ text ∧ c ≠ separator := by
  -- By the first character: a separator starts a piece of its own, and any other character goes
  -- into the first piece of the rest.
  induction text generalizing piece with
  | nil => simp_all [Text.splitOn]
  | cons d rest ih =>
      rw [Text.splitOn] at mem
      split at mem
      · rcases List.mem_cons.1 mem with rfl | mem
        · simp at inside
        · obtain ⟨inRest, ne⟩ := ih mem inside
          exact ⟨List.mem_cons_of_mem d inRest, ne⟩
      · rename_i ne
        split at mem
        · obtain rfl : piece = [d] := by simpa using mem
          obtain rfl : c = d := by simpa using inside
          exact ⟨List.mem_cons_self, ne⟩
        · rename_i first pieces split_eq
          rcases List.mem_cons.1 mem with rfl | mem
          · rcases List.mem_cons.1 inside with rfl | inside
            · exact ⟨List.mem_cons_self, ne⟩
            · obtain ⟨inRest, ne⟩ := ih (split_eq ▸ List.mem_cons_self) inside
              exact ⟨List.mem_cons_of_mem d inRest, ne⟩
          · obtain ⟨inRest, ne⟩ := ih (split_eq ▸ List.mem_cons_of_mem first mem) inside
            exact ⟨List.mem_cons_of_mem d inRest, ne⟩

/-! ### Lines -/

/-- Whether no character of the text ends a line. -/
def Text.isLine (text : Text) : Bool := text.all fun c => !isLineBreak c

/-- Two texts make up a line when each of them is on one. -/
theorem Text.isLine_append {text more : Text} :
    (text ++ more).isLine = (text.isLine && more.isLine) := List.all_append

/-- Pieces of a line make up a line when what is between them does not break it. -/
theorem Text.isLine_intercalate {separator : Text} {pieces : List Text}
    (between : separator.isLine = true) (each : ∀ piece ∈ pieces, piece.isLine = true) :
    Text.isLine (List.intercalate separator pieces) = true := by
  refine List.all_eq_true.2 fun c mem => ?_
  rcases mem_intercalate mem with inSeparator | ⟨piece, pieceMem, inside⟩
  · exact List.all_eq_true.1 between c inSeparator
  · exact List.all_eq_true.1 (each piece pieceMem) c inside

/-- A character that ends no line goes into the first line of the rest. -/
theorem Text.lines_cons {c : Char} (inside : isLineBreak c = false) (rest : Text) :
    Text.lines (c :: rest) = match Text.lines rest with
      | [] => [[c]]
      | line :: others => (c :: line) :: others := by
  have noReturn : ∀ more, c = '\r' → rest = '\n' :: more → False := by
    rintro more rfl
    exact absurd inside (by decide)
  exact (Text.lines.eq_3 c rest noReturn).trans (if_neg (Bool.eq_false_iff.1 inside))

/-- A line by itself is the only line of its text. -/
theorem Text.lines_of_isLine {text : Text} (one : text.isLine = true) (ne : text ≠ []) :
    Text.lines text = [text] := by
  induction text with
  | nil => exact absurd rfl ne
  | cons c text ih =>
      rw [Text.isLine, List.all_cons, Bool.and_eq_true, Bool.not_eq_true'] at one
      rw [Text.lines_cons one.1]
      -- The last character has no line behind it to go into, and makes up one by itself.
      cases text with
      | nil => rfl
      | cons d text => rw [ih one.2 (List.cons_ne_nil _ _)]

/-- A line that is ended by a line feed is the first one of the text. -/
theorem Text.lines_append_lineFeed {line : Text} (one : line.isLine = true) (rest : Text) :
    Text.lines (line ++ '\n' :: rest) = line :: Text.lines rest := by
  induction line with
  | nil => rfl
  | cons c line ih =>
      rw [Text.isLine, List.all_cons, Bool.and_eq_true, Bool.not_eq_true'] at one
      rw [List.cons_append, Text.lines_cons one.1, ih one.2]

/-- Lines with line feeds between them are the lines of the whole. -/
theorem Text.lines_intercalate {pieces : List Text}
    (each : ∀ piece ∈ pieces, piece.isLine = true ∧ piece ≠ []) :
    Text.lines (List.intercalate ['\n'] pieces) = pieces := by
  -- The last piece is not ended by a line feed, so it must not be empty.
  induction pieces with
  | nil => rfl
  | cons first rest ih =>
      obtain ⟨one, ne⟩ := each first List.mem_cons_self
      cases rest with
      | nil =>
          rw [List.intercalate_singleton]
          exact Text.lines_of_isLine one ne
      | cons second rest =>
          have others := ih fun piece mem => each piece (List.mem_cons_of_mem first mem)
          rw [List.intercalate_cons_cons, List.append_assoc, List.singleton_append,
            Text.lines_append_lineFeed one, others]

/-- A text that is not empty has lines. -/
theorem Text.lines_ne_nil {text : Text} (ne : text ≠ []) : Text.lines text ≠ [] := by
  fun_cases Text.lines text with
  | case1 => exact absurd rfl ne
  | case2 | case3 | case4 | case5 => exact List.cons_ne_nil _ _

/-- A line feed ends the lines in front of it, so that those behind it stay as they are. It ends an
empty line of its own, unless an open line or a return stands in front of it. -/
theorem Text.exists_lines_append (text : Text) : ∃ ended : List Text, (ended = [] ∨ ended = [[]]) ∧
    ∀ more, Text.lines (text ++ '\n' :: more) = Text.lines text ++ ended ++ Text.lines more := by
  induction text using Text.universalNewlines.induct with
  | case1 => exact ⟨[[]], .inr rfl, fun _ => rfl⟩
  | case2 rest ih =>
      obtain ⟨ended, kind, lines_eq⟩ := ih
      exact ⟨ended, kind, fun more => congrArg ([] :: ·) (lines_eq more)⟩
  | case3 c rest noPair ih =>
      obtain ⟨ended, kind, lines_eq⟩ := ih
      by_cases ends : isLineBreak c = true
      · by_cases last : c = '\r' ∧ rest = []
        · obtain ⟨rfl, rfl⟩ := last
          exact ⟨[], .inl rfl, fun _ => rfl⟩
        · refine ⟨ended, kind, fun more => ?_⟩
          have noPair' : ∀ other, c = '\r' → rest ++ '\n' :: more = '\n' :: other → False := by
            intro other isReturn rest_eq
            cases rest with
            | nil => exact last ⟨isReturn, rfl⟩
            | cons d rest => exact noPair rest isReturn (by rw [(List.cons.inj rest_eq).1])
          rw [List.cons_append, Text.lines.eq_3 c _ noPair', Text.lines.eq_3 c rest noPair,
            lines_eq, if_pos ends, if_pos ends]
          rfl
      · have inside : isLineBreak c = false := Bool.eq_false_iff.2 ends
        -- The character goes into the first line of the rest, and makes up one if there is none.
        cases rest_eq : Text.lines rest with
        | nil =>
            obtain rfl : rest = [] := Decidable.not_not.1 fun ne => Text.lines_ne_nil ne rest_eq
            refine ⟨[], .inl rfl, fun more => ?_⟩
            rw [List.cons_append, List.nil_append, Text.lines_cons inside, Text.lines_cons inside]
            rfl
        | cons line others =>
            refine ⟨ended, kind, fun more => ?_⟩
            rw [List.cons_append, Text.lines_cons inside, Text.lines_cons inside, lines_eq, rest_eq]
            rfl

end MathGrammar
