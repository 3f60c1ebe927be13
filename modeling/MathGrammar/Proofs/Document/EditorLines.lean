import MathGrammar.Proofs.Document.Diagnostics

/-! # Lines as an editor counts them

A diagnostic numbers the lines of its document by every character that ends one, while an editor
counts line feeds and returns alone. The two numbers differ by the other line ends in front of the
place, and agree exactly when there are none. -/

namespace MathGrammar

/-! ### Line ends in front of an offset -/

/-- The characters that end a line for an editor. -/
def isEditorLineBreak (c : Char) : Bool := c == '\n' || c == '\r'

/-- The characters that end a line, but not for an editor. -/
def isForeignLineBreak (c : Char) : Bool := isLineBreak c && !isEditorLineBreak c

/-- What ends a line for an editor ends one of the document. -/
theorem isLineBreak_of_isEditorLineBreak {c : Char} (own : isEditorLineBreak c = true) :
    isLineBreak c = true := by
  simp only [isEditorLineBreak, Bool.or_eq_true, beq_iff_eq] at own
  rcases own with rfl | rfl <;> decide

namespace Text

/-- The number of line ends in front of an offset when the given characters end lines. A return and
a line feed together end one line, which also holds the offset between the two. -/
def lineEnds (ends : Char → Bool) : Text → Nat → Nat
  | _, 0 => 0
  | [], _ + 1 => 0
  | '\r' :: '\n' :: _, 1 => 0
  | '\r' :: '\n' :: rest, offset + 2 => lineEnds ends rest offset + 1
  | c :: rest, offset + 1 => lineEnds ends rest offset + if ends c then 1 else 0

/-- The number of the line that holds an offset, as an editor counts. -/
def editorLine (text : Text) (offset : Nat) : Nat := text.lineEnds isEditorLineBreak offset

/-- The offset at which a line of the text starts. -/
def startOfLine : Text → Nat → Nat
  | _, 0 => 0
  | [], _ + 1 => 0
  | '\r' :: '\n' :: rest, number + 1 => startOfLine rest number + 2
  | c :: rest, number + 1 => startOfLine rest (if isLineBreak c then number else number + 1) + 1

/-- No line ends in front of the first character. -/
theorem lineEnds_zero (ends : Char → Bool) (text : Text) : text.lineEnds ends 0 = 0 := by
  rw [lineEnds]

/-- The first line starts with the text. -/
theorem startOfLine_zero (text : Text) : text.startOfLine 0 = 0 := by
  rw [startOfLine]

/-- A character that is no half of a pair ends a line by itself, or ends none. -/
theorem lineEnds_cons (ends : Char → Bool) {c : Char} {rest : Text}
    (noPair : ∀ other, c = '\r' → rest = '\n' :: other → False) (offset : Nat) :
    lineEnds ends (c :: rest) (offset + 1) = lineEnds ends rest offset + if ends c then 1 else 0 :=
  lineEnds.eq_5 ends c rest offset (fun other isReturn pair _ => noPair other isReturn pair)
    fun other _ isReturn pair _ => noPair other isReturn pair

/-- The text has the line under the number: it stands where that one starts, and holds the offsets
from there up to its end. -/
structure HoldsLine (text line : Text) (number : Nat) : Prop where
  /-- The line stands at its start. -/
  stands : line <+: text.drop (text.startOfLine number)
  /-- All offsets up to the end of the line are of its number. -/
  numbered : ∀ column ≤ line.length,
    text.lineEnds isLineBreak (text.startOfLine number + column) = number

namespace HoldsLine

variable {rest line : Text} {c : Char} {number : Nat}

/-- Nothing of a first line is needed for an empty one. -/
theorem empty (text : Text) : HoldsLine text [] 0 where
  stands := List.nil_prefix
  numbered column le := by
    rw [startOfLine_zero, Nat.le_zero.1 le, lineEnds_zero]

/-- A return and a line feed end one line. -/
theorem behind_pair (holds : HoldsLine rest line number) :
    HoldsLine ('\r' :: '\n' :: rest) line (number + 1) where
  stands := holds.stands
  numbered column le := by
    rw [startOfLine, Nat.add_right_comm, lineEnds, holds.numbered column le]

/-- Any other character that ends a line ends one by itself. -/
theorem behind_break (holds : HoldsLine rest line number)
    (noPair : ∀ other, c = '\r' → rest = '\n' :: other → False) (ends : isLineBreak c = true) :
    HoldsLine (c :: rest) line (number + 1) := by
  have start_eq : startOfLine (c :: rest) (number + 1) = startOfLine rest number + 1 := by
    rw [startOfLine.eq_4 c rest number noPair, if_pos ends]
  refine ⟨?_, fun column le => ?_⟩
  · rw [start_eq]
    exact holds.stands
  · rw [start_eq, Nat.add_right_comm, lineEnds_cons _ noPair, holds.numbered column le, if_pos ends]

/-- A character that ends no line belongs to the first one. -/
theorem cons_first (holds : HoldsLine rest line 0)
    (noPair : ∀ other, c = '\r' → rest = '\n' :: other → False) (inside : isLineBreak c = false) :
    HoldsLine (c :: rest) (c :: line) 0 := by
  obtain ⟨stands, numbered⟩ := holds
  rw [startOfLine_zero, List.drop_zero] at stands
  refine ⟨?_, fun column le => ?_⟩
  · rw [startOfLine_zero, List.drop_zero]
    exact List.cons_prefix_cons.2 ⟨rfl, stands⟩
  · rw [startOfLine_zero, Nat.zero_add]
    cases column with
    | zero => exact lineEnds_zero _ _
    | succ column =>
        have none := numbered column (Nat.le_of_succ_le_succ le)
        rw [startOfLine_zero, Nat.zero_add] at none
        rw [lineEnds_cons _ noPair, inside, none]
        rfl

/-- The lines behind the first one stay under their numbers. -/
theorem cons_later (holds : HoldsLine rest line (number + 1))
    (noPair : ∀ other, c = '\r' → rest = '\n' :: other → False) (inside : isLineBreak c = false) :
    HoldsLine (c :: rest) line (number + 1) := by
  have start_eq : startOfLine (c :: rest) (number + 1) = startOfLine rest (number + 1) + 1 := by
    rw [startOfLine.eq_4 c rest number noPair, inside]
    rfl
  refine ⟨?_, fun column le => ?_⟩
  · rw [start_eq]
    exact holds.stands
  · rw [start_eq, Nat.add_right_comm, lineEnds_cons _ noPair, holds.numbered column le, inside]
    rfl

end HoldsLine

/-- A text has each of its lines under its number. -/
theorem holdsLine_of_getElem? {text line : Text} {number : Nat}
    (line_eq : text.lines[number]? = some line) : HoldsLine text line number := by
  induction text using universalNewlines.induct generalizing number line with
  | case1 => exact absurd line_eq (by simp [lines])
  | case2 rest ih =>
      cases number with
      | zero =>
          obtain rfl : [] = line := by simpa [lines] using line_eq
          exact .empty _
      | succ number => exact .behind_pair (ih (line_eq : (lines rest)[number]? = some line))
  | case3 c rest noPair ih =>
      by_cases ends : isLineBreak c = true
      · rw [lines.eq_3 c rest noPair, if_pos ends] at line_eq
        cases number with
        | zero =>
            obtain rfl : [] = line := by simpa using line_eq
            exact .empty _
        | succ number =>
            exact .behind_break (ih (line_eq : (lines rest)[number]? = some line)) noPair ends
      · have inside : isLineBreak c = false := Bool.eq_false_iff.2 ends
        rw [lines_cons inside] at line_eq
        -- The character stands in front of the first line of the rest, which may be missing.
        cases rest_eq : lines rest with
        | nil =>
            obtain ⟨rfl, rfl⟩ : number = 0 ∧ [c] = line := by
              simpa [rest_eq, List.getElem?_singleton, eq_comm] using line_eq
            exact .cons_first (.empty rest) noPair inside
        | cons first others =>
            rw [rest_eq] at line_eq ih
            cases number with
            | zero =>
                obtain rfl : c :: first = line := by simpa using line_eq
                exact .cons_first (ih rfl) noPair inside
            | succ number => exact .cons_later (ih line_eq) noPair inside

/-- Of the line ends in front of an offset an editor misses those that are none of its own. -/
theorem lineEnds_isLineBreak (text : Text) (offset : Nat) :
    text.lineEnds isLineBreak offset
      = text.editorLine offset + (text.take offset).countP isForeignLineBreak := by
  unfold editorLine
  induction text using universalNewlines.induct generalizing offset with
  | case1 => cases offset <;> simp [lineEnds]
  | case2 rest ih =>
      cases offset with
      | zero => simp [lineEnds_zero]
      | succ offset =>
          cases offset with
          | zero => simp [lineEnds, isForeignLineBreak, isEditorLineBreak]
          | succ offset =>
              have own : (('\r' :: '\n' :: rest).take (offset + 2)).countP isForeignLineBreak
                  = (rest.take offset).countP isForeignLineBreak := rfl
              rw [lineEnds, lineEnds, ih, own, Nat.add_right_comm]
  | case3 c rest noPair ih =>
      cases offset with
      | zero => simp [lineEnds_zero]
      | succ offset =>
          rw [lineEnds_cons _ noPair, lineEnds_cons _ noPair, ih, List.take_succ_cons,
            List.countP_cons, isForeignLineBreak]
          by_cases own : isEditorLineBreak c = true
          · rw [own, isLineBreak_of_isEditorLineBreak own]
            exact Nat.add_right_comm _ _ 1
          · rw [Bool.eq_false_iff.2 own, Bool.not_false, Bool.and_true]
            exact Nat.add_assoc _ _ _

end Text

/-! ### Places -/

/-- The offset of a place in the document. -/
def Place.offsetIn (document : Text) (place : Place) : Nat :=
  document.startOfLine place.line.toNat + place.column.toNat

/-- The offset of the content at which the excerpt fails to be a block, if it does. -/
def Excerpt.failure? (excerpt : Excerpt) : Option Nat :=
  match excerpt.verdict with
  | .passed _ => none
  | .faulty fault => some fault.offset
  | .unparsed offset _ => some offset

namespace Diagnostic

variable {marker document : Text} {excerpt : Excerpt} {diagnostic : Diagnostic}

/-- A diagnostic is about the offset at which its excerpt fails. -/
theorem exists_failure_of_ofExcerpt? (found : ofExcerpt? excerpt = some diagnostic) :
    ∃ position message, excerpt.failure? = some position ∧ position ≤ excerpt.content.length ∧
      ofOffset excerpt position message = diagnostic := by
  unfold ofExcerpt? Excerpt.verdict at found
  unfold Excerpt.failure? Excerpt.verdict
  cases parsed : parseMathBlock excerpt.content with
  | error fault =>
      rw [parsed] at found
      exact ⟨_, _, rfl, offset_le_of_parseMathBlock parsed, Option.some.inj found⟩
  | ok read =>
      obtain ⟨block, rest⟩ := read
      rw [parsed] at found
      cases rest with
      | nil => exact absurd found nofun
      | cons c rest => exact ⟨_, _, rfl, Nat.sub_le _ _, Option.some.inj found⟩

/-- Where an offset of the content leads in the document the same character stands. -/
theorem getElem?_offsetIn_locate {run : List Text} {start position : Nat} {c : Char}
    (spans : excerpt.Spans 0 document.lines start run)
    (inside : excerpt.content[position]? = some c) :
    document[(excerpt.locate position).offsetIn document]? = some c := by
  obtain ⟨lt, -⟩ := List.getElem?_eq_some_iff.1 inside
  obtain ⟨line, column, text, located, -, line_eq, column_lt, same⟩ := spans.exists_place lt
  obtain ⟨after, starts⟩ := (Text.holdsLine_of_getElem? line_eq).stands
  rw [located, Place.offsetIn, Int.toNat_natCast, Int.toNat_natCast, ← List.getElem?_drop,
    ← starts, List.getElem?_append_left column_lt, same, inside]

/-- **When a diagnostic starts on a line of the editor.** A diagnostic starts where its excerpt
fails, at a place in the document where the failing character stands. Its line is that of the
editor and as many more as there are line ends in front of the place that are none for the editor;
so it is that of the editor exactly when all line ends there are line feeds and returns. -/
theorem line_eq_editorLine_iff (mem : diagnostic ∈ diagnostics marker document) :
    ∃ excerpt ∈ excerpts marker document, ∃ position offset, excerpt.failure? = some position ∧
      diagnostic.start = excerpt.locate position ∧
      diagnostic.start.offsetIn document = offset ∧
      (∀ c, excerpt.content[position]? = some c → document[offset]? = some c) ∧
      diagnostic.start.line
        = document.editorLine offset + (document.take offset).countP isForeignLineBreak ∧
      (diagnostic.start.line = document.editorLine offset ↔
        ∀ c ∈ document.take offset, isLineBreak c = true → isEditorLineBreak c = true) := by
  obtain ⟨excerpt, excerptMem, found⟩ := List.mem_filterMap.1 mem
  obtain ⟨start, run, spans⟩ := Excerpt.exists_spans_of_mem excerptMem
  obtain ⟨position, message, failure, inside, rfl⟩ := exists_failure_of_ofExcerpt? found
  obtain ⟨line, column, text, -, line_eq, le, place_eq, -⟩ :=
    liesIn_ofOffset spans inside message
  have holds := (Text.holdsLine_of_getElem? line_eq).numbered
  have line_count : ((ofOffset excerpt position message).start.line : Int)
      = document.editorLine (document.startOfLine line + column)
        + (document.take (document.startOfLine line + column)).countP isForeignLineBreak := by
    rw [place_eq, ← Int.natCast_add, ← Text.lineEnds_isLineBreak, holds column le]
  refine ⟨excerpt, excerptMem, position, document.startOfLine line + column, failure, rfl, ?_, ?_,
    line_count, ?_⟩
  · rw [place_eq, Place.offsetIn, Int.toNat_natCast, Int.toNat_natCast]
  · intro c same
    have stands := getElem?_offsetIn_locate spans same
    rwa [show excerpt.locate position = ⟨line, column⟩ from place_eq, Place.offsetIn,
      Int.toNat_natCast, Int.toNat_natCast] at stands
  · rw [line_count]
    have none_iff : (document.take (document.startOfLine line + column)).countP
        isForeignLineBreak = 0 ↔ ∀ c ∈ document.take (document.startOfLine line + column),
          isLineBreak c = true → isEditorLineBreak c = true := by
      simp [List.countP_eq_zero, isForeignLineBreak]
    rw [← none_iff]
    omega

/-- A line that ends with a return and a line feed, and one that ends with a return. -/
theorem line_eq_editorLine_behind_returns :
    let document : Text := "a\r\n.. math::\r\\K\nx".toList
    let diagnostic : Diagnostic := ⟨⟨2, 0⟩, ⟨2, 1⟩, "Parse Error: unexpected token at line 1, " ++
      "column 1: expected \\begin, found '\\\\Kx'"⟩
    diagnostic ∈ diagnostics defaultMarker document ∧
      diagnostic.start.line = document.editorLine 13 := by
  intro document diagnostic
  have mem : diagnostic ∈ diagnostics defaultMarker document := by
    have only : diagnostics defaultMarker document = [diagnostic] := by decide +kernel
    rw [only]
    exact List.mem_singleton_self diagnostic
  obtain ⟨excerpt, -, position, offset, -, -, rfl, -, -, agrees⟩ := line_eq_editorLine_iff mem
  have offset_eq : diagnostic.start.offsetIn document = 13 := by decide
  rw [offset_eq] at agrees
  have own : (document.take 13).all (fun c => isEditorLineBreak c || !isLineBreak c) = true := by
    decide
  refine ⟨mem, agrees.2 fun c inside ends => ?_⟩
  simpa [ends] using List.all_eq_true.1 own c inside

/-- A form feed ends a line of the document, and none of the editor. -/
theorem editorLine_behind_formFeed :
    let document : Text := "a\x0cb\n.. math::\nx".toList
    ¬∀ diagnostic ∈ diagnostics defaultMarker document,
      diagnostic.start.line = document.editorLine (diagnostic.start.offsetIn document) := by
  decide +kernel

end Diagnostic

end MathGrammar
