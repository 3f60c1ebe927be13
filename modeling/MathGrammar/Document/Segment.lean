import MathGrammar.Text.Basic

/-! # Segments

When lines are joined into one text, a segment for each line says where it starts there. The
segments map an offset of the joined text back to a line and a column. -/

namespace MathGrammar

/-- The start of a line inside a joined text. The numbers are integers, so that lines can also be
counted from some place inside the document. -/
structure Segment where
  /-- The number of the line in its document. -/
  line : Int
  /-- The offset at which the line starts. -/
  offset : Int
deriving DecidableEq, Repr

/-- A place in a document. The column is negative for an offset before the first segment. -/
structure Place where
  /-- The number of the line. -/
  line : Int
  /-- The number of characters before the place on its line. -/
  column : Int
deriving DecidableEq, Repr

namespace Segment

/-- The index of the first of the sorted offsets that lies after `position`, found by halving the
range from `low` to `high`. -/
def upperBound (offsets : List Int) (position : Int) (low high : Nat) : Nat :=
  if low < high then
    let middle := (low + high) / 2
    if position < offsets.getD middle 0 then
      upperBound offsets position low middle
    else
      upperBound offsets position (middle + 1) high
  else
    low
termination_by high - low

/-- The search never leaves the part that it was given. -/
theorem upperBound_le (offsets : List Int) (position : Int) (low high : Nat) (h : low ≤ high) :
    upperBound offsets position low high ≤ high := by
  fun_induction upperBound offsets position low high with
  | case1 low high hlt middle _ ih => exact Nat.le_trans (ih (by omega)) (by omega)
  | case2 low high hlt middle _ ih => exact ih (by omega)
  | case3 low high hge => exact h

/-- The index of the segment that holds `position`: the one before the upper bound, or the
first. -/
def index (segments : List Segment) (position : Int) : Nat :=
  upperBound (segments.map Segment.offset) position 0 segments.length - 1

/-- The segment that is found is one of the list. -/
theorem index_lt (segments : List Segment) (position : Int) (h : segments ≠ []) :
    index segments position < segments.length := by
  have := upperBound_le (segments.map Segment.offset) position 0 segments.length (Nat.zero_le _)
  have := List.length_pos_iff.2 h
  unfold index
  omega

/-- The place of `position`, counted from the start of the segment that holds it. -/
def place (segment : Segment) (position : Int) : Place :=
  ⟨segment.line, position - segment.offset⟩

/-- The place that the segments give to `position`, unless there are none. -/
def locate? (segments : List Segment) (position : Int) : Option Place :=
  segments[index segments position]?.map fun segment => segment.place position

/-- The segments of lines that are joined from `offset` on, the first of them line `line`. -/
def ofLines (line offset : Nat) : List Text → List Segment
  | [] => []
  | text :: rest => ⟨line, offset⟩ :: ofLines (line + 1) (offset + text.length) rest

/-- The lines of a block leave a segment at least. -/
theorem ofLines_cons_ne_nil (line offset : Nat) (text : Text) (rest : List Text) :
    ofLines line offset (text :: rest) ≠ [] := nofun

end Segment

end MathGrammar
