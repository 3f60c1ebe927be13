import MathGrammar.Fault.Message
import Mathlib.Data.List.Basic

/-! # Lines and columns

The line of an offset is counted from the start of the text, and its column is looked for backwards
from the offset. Both are about the same start of a line, and a line starts in one place only, so
line and column together are as good as the offset. -/

namespace MathGrammar

namespace Text

variable {text : Text} {line start other a b offset : Nat}

/-! ### Starts of lines -/

/-- The line of this number starts at `start`. -/
structure StartsLine (text : Text) (line start : Nat) : Prop where
  /-- The text starts there, or a line feed stands in front. -/
  boundary : start = 0 ∨ ∃ before, start = before + 1 ∧ text[before]? = some '\n'
  /-- The line feeds in front are those that end the lines before. -/
  count : (text.take start).count '\n' = line - 1
  /-- Lines are counted from one. -/
  positive : 1 ≤ line

/-- Further on in a text there are no fewer line feeds in front. -/
theorem count_take_mono (text : Text) (le : a ≤ b) :
    (text.take a).count '\n' ≤ (text.take b).count '\n' :=
  ((List.take_prefix_take_left le).sublist).count_le '\n'

/-- Behind a line feed there is one more than in front of it. -/
theorem count_take_lt {before : Nat} (le : start ≤ before) (feed : text[before]? = some '\n') :
    (text.take start).count '\n' < (text.take (before + 1)).count '\n' := by
  have inFront := count_take_mono text le
  rw [List.take_add_one, feed, Option.toList_some, List.count_append, List.count_singleton_self]
  omega

/-- A line starts in one place. -/
theorem StartsLine.le (first : text.StartsLine line start) (second : text.StartsLine line other) :
    other ≤ start := by
  refine Nat.le_of_not_lt fun lt => ?_
  rcases second.boundary with rfl | ⟨before, rfl, feed⟩
  · exact Nat.not_lt_zero _ lt
  · have more := count_take_lt (Nat.le_of_lt_succ lt) feed
    rw [first.count, second.count] at more
    exact Nat.lt_irrefl _ more

/-- What stands in front of the last line is nothing, or ends with a line feed. -/
theorem exists_lastLine (text : Text) : ∃ before, text = before ++ text.lastLine ∧
    '\n' ∉ text.lastLine ∧ (before = [] ∨ ∃ front, before = front ++ ['\n']) := by
  refine ⟨(text.reverse.dropWhile (· != '\n')).reverse, ?_, ?_, ?_⟩
  · rw [lastLine, ← List.reverse_append, List.takeWhile_append_dropWhile, List.reverse_reverse]
  · intro mem
    rw [lastLine, List.mem_reverse] at mem
    have other := List.all_eq_true.1 (List.all_takeWhile (p := (· != '\n'))) _ mem
    exact absurd other (by decide)
  · have stopped := List.head?_dropWhile_not (· != '\n') text.reverse
    cases found : text.reverse.dropWhile (· != '\n') with
    | nil => exact .inl rfl
    | cons c rest =>
        rw [found] at stopped
        obtain rfl : c = '\n' := by simpa using stopped
        exact .inr ⟨rest.reverse, List.reverse_cons⟩

/-- The line of an offset starts where the backward search ends, and no line feed lies in
between. -/
theorem startsLine_lineStart (inside : offset ≤ text.length) :
    text.StartsLine (text.lineAt offset) (text.lineStart offset) ∧ text.lineStart offset ≤ offset ∧
      '\n' ∉ (text.take offset).drop (text.lineStart offset) := by
  obtain ⟨before, take_eq, none, ended⟩ := exists_lastLine (text.take offset)
  have length_eq : before.length + (lastLine (text.take offset)).length = offset := by
    rw [← List.length_append, ← take_eq, List.length_take, Nat.min_eq_left inside]
  have start_eq : text.lineStart offset = before.length := by
    rw [lineStart, List.length_take, Nat.min_eq_left inside]
    omega
  have le : before.length ≤ offset := by omega
  have before_eq : text.take before.length = before := by
    have inTake : (text.take offset).take before.length = before := by
      rw [take_eq, List.take_left]
    rwa [List.take_take, Nat.min_eq_left le] at inTake
  rw [start_eq]
  refine ⟨⟨?_, ?_, Nat.le_add_left 1 _⟩, le, ?_⟩
  · rcases ended with rfl | ⟨front, rfl⟩
    · exact .inl rfl
    · refine .inr ⟨front.length, by simp, ?_⟩
      have feed : (text.take (front ++ ['\n']).length)[front.length]? = some '\n' := by
        rw [before_eq, List.getElem?_concat_length]
      rwa [List.getElem?_take_of_lt (by simp)] at feed
  · rw [before_eq, lineAt, Nat.add_sub_cancel, take_eq, List.count_append,
      List.count_eq_zero.2 none, Nat.add_zero]
  · rwa [take_eq, List.drop_left]

/-- The column counts from the start of the line. -/
theorem lineStart_add_columnAt (inside : offset ≤ text.length) :
    text.lineStart offset + text.columnAt offset = offset + 1 := by
  have le := (startsLine_lineStart inside).2.1
  unfold columnAt
  omega

/-! ### Order -/

/-- Two places on the same line have the same start of their line. -/
theorem lineStart_eq (inside : a ≤ text.length) (inside' : b ≤ text.length)
    (same : text.lineAt a = text.lineAt b) : text.lineStart a = text.lineStart b := by
  have first := (startsLine_lineStart inside).1
  have second := (startsLine_lineStart inside').1
  rw [← same] at second
  exact Nat.le_antisymm (second.le first) (first.le second)

/-- Offsets are in the order of their lines and, on one line, of their columns. -/
theorem lt_iff_line_column (inside : a ≤ text.length) (inside' : b ≤ text.length) :
    a < b ↔ text.lineAt a < text.lineAt b ∨
      text.lineAt a = text.lineAt b ∧ text.columnAt a < text.columnAt b := by
  have column := lineStart_add_columnAt inside
  have column' := lineStart_add_columnAt inside'
  rcases Nat.lt_trichotomy (text.lineAt a) (text.lineAt b) with less | same | more
  · refine iff_of_true (Nat.lt_of_not_le fun le => ?_) (.inl less)
    exact Nat.not_lt.2 (Nat.add_le_add_right (count_take_mono text le) 1) less
  · have start_eq := lineStart_eq inside inside' same
    constructor
    · intro lt
      exact .inr ⟨same, by omega⟩
    · rintro (less | ⟨-, less⟩) <;> omega
  · refine iff_of_false (fun lt => ?_) (by omega)
    exact Nat.not_lt.2 (Nat.add_le_add_right (count_take_mono text (Nat.le_of_lt lt)) 1) more

end Text

namespace Fault

/-- **Line and column say where a fault lies.** Both count from one. Going back from the fault by
the characters of its column leads over no line feed to the start of its line, which is the start of
the text or follows a line feed, and as many line feeds stand in front of it as there are lines
before. So two faults on one line and in one column lie in the same place, and of two others the
first is on an earlier line, or further left on the same. -/
theorem line_column_identify (text : Text) (fault : Fault) (inside : fault.offset ≤ text.length) :
    1 ≤ fault.line text ∧ 1 ≤ fault.column text ∧
    (∃ start, start + fault.column text = fault.offset + 1 ∧
      '\n' ∉ (text.take fault.offset).drop start ∧ text.StartsLine (fault.line text) start) ∧
    ∀ other : Fault, other.offset ≤ text.length →
      (fault.line text = other.line text → fault.column text = other.column text →
        fault.offset = other.offset) ∧
      (fault.offset < other.offset ↔ fault.line text < other.line text ∨
        fault.line text = other.line text ∧ fault.column text < other.column text) := by
  obtain ⟨starts, -, none⟩ := Text.startsLine_lineStart inside
  have column := Text.lineStart_add_columnAt inside
  refine ⟨starts.positive, Nat.le_add_left 1 _, ⟨_, column, none, starts⟩, fun other inside' => ?_⟩
  refine ⟨fun line_eq column_eq => ?_, Text.lt_iff_line_column inside inside'⟩
  have start_eq := Text.lineStart_eq inside inside' line_eq
  have column' := Text.lineStart_add_columnAt inside'
  unfold Fault.column at column_eq
  omega

/-- A fault at a line feed, one behind it, and one at the end of the text. -/
theorem line_column_identify_around_lineFeed :
    let text : Text := "\\num\n  |".toList
    let fault (offset : Nat) : Fault := ⟨⟨.unexpectedToken, .token [':', ':', '=']⟩, offset⟩
    (fault 4).offset ≤ text.length ∧ (fault 5).offset ≤ text.length ∧
      (fault 8).offset ≤ text.length ∧
      ((fault 4).line text, (fault 4).column text) = (1, 5) ∧
      ((fault 5).line text, (fault 5).column text) = (2, 1) ∧
      (∃ start, start + (fault 8).column text = 9 ∧ text.StartsLine 2 start) ∧
      ((fault 4).offset < (fault 5).offset ↔ (fault 4).line text < (fault 5).line text ∨
        (fault 4).line text = (fault 5).line text ∧
          (fault 4).column text < (fault 5).column text) := by
  intro text fault
  have inside : (fault 4).offset ≤ text.length := by decide
  have behind : (fault 5).offset ≤ text.length := by decide
  have ending : (fault 8).offset ≤ text.length := by decide
  obtain ⟨-, -, -, order⟩ := line_column_identify text (fault 4) inside
  obtain ⟨-, -, ⟨start, column, -, starts⟩, -⟩ := line_column_identify text (fault 8) ending
  exact ⟨inside, behind, ending, rfl, rfl, ⟨start, column, starts⟩, (order (fault 5) behind).2⟩

end Fault

end MathGrammar
