import MathGrammar.Diagnostic
import MathGrammar.Proofs.Document.Runs
import MathGrammar.Proofs.Text
import Mathlib.Data.List.TakeWhile

/-! # Documents one after the other

An empty line between two documents keeps them apart: what is found in either of them does not
depend on the other, apart from the numbers of its lines. -/

namespace MathGrammar

/-! ### Lines further down -/

/-- The place on the line `count` lines further down. -/
def Place.lower (count : Nat) (place : Place) : Place := { place with line := place.line + count }

/-- The segment of the line `count` lines further down. -/
def Segment.lower (count : Nat) (segment : Segment) : Segment :=
  { segment with line := segment.line + count }

/-- The same lines, `count` lines further down in their document. -/
def Excerpt.lower (count : Nat) (excerpt : Excerpt) : Excerpt where
  content := excerpt.content
  segments := excerpt.segments.map (Segment.lower count)
  nonempty := by simpa using excerpt.nonempty

/-- The same problem, `count` lines further down. -/
def Diagnostic.lower (count : Nat) (diagnostic : Diagnostic) : Diagnostic where
  start := diagnostic.start.lower count
  stop := diagnostic.stop.lower count
  message := diagnostic.message

namespace Segment

/-- Segments of lines further down are those of the lines, further down. -/
theorem ofLines_lower (count line offset : Nat) (run : List Text) :
    (ofLines line offset run).map (lower count) = ofLines (count + line) offset run := by
  induction run generalizing line offset with
  | nil => rfl
  | cons text run ih =>
      rw [ofLines, List.map_cons, ih, ofLines, Nat.add_assoc, lower, Int.natCast_add, Int.add_comm]

/-- Lower segments hold the same offsets. -/
theorem index_lower (count : Nat) (segments : List Segment) (position : Int) :
    index (segments.map (lower count)) position = index segments position := by
  rw [index, index, List.length_map, List.map_map]
  rfl

end Segment

namespace Excerpt

/-- An excerpt of lines further down is that of the lines, further down. -/
theorem ofLines_lower (count line : Nat) (text : Text) (texts : List Text) :
    (ofLines line text texts).lower count = ofLines (count + line) text texts := by
  unfold lower ofLines
  simp only [Segment.ofLines_lower]

/-- A position in an excerpt further down is located as much further down. -/
theorem locate_lower (count : Nat) (excerpt : Excerpt) (position : Int) :
    (excerpt.lower count).locate position = (excerpt.locate position).lower count := by
  refine Option.some.inj ?_
  rw [← locate?_segments]
  show Segment.locate? (excerpt.segments.map (Segment.lower count)) position
    = (some (excerpt.locate position)).map (Place.lower count)
  rw [← locate?_segments, Segment.locate?, Segment.index_lower, List.getElem?_map, Segment.locate?,
    Option.map_map, Option.map_map]
  rfl

end Excerpt

/-- Where an excerpt stands decides nothing but the place of its problem. -/
theorem Diagnostic.ofExcerpt?_lower (count : Nat) (excerpt : Excerpt) :
    ofExcerpt? (excerpt.lower count) = (ofExcerpt? excerpt).map (lower count) := by
  have verdict_eq : (excerpt.lower count).verdict = excerpt.verdict := rfl
  have place_eq (offset : Nat) (message : String) : ofOffset (excerpt.lower count) offset message
      = (ofOffset excerpt offset message).lower count := by
    rw [ofOffset, Excerpt.locate_lower]
    rfl
  rw [ofExcerpt?, verdict_eq, ofExcerpt?]
  cases excerpt.verdict with
  | passed block => rfl
  | faulty fault => exact congrArg some (place_eq _ _)
  | unparsed offset rest => exact congrArg some (place_eq _ _)

/-! ### Blank lines -/

/-- Nothing is left of a blank line without its blanks. -/
theorem Text.trim_of_allBlank {line : Text} (blank : line.allBlank = true) : line.trim = [] := by
  have nothing : line.dropBlank = [] := List.dropWhile_eq_nil_iff.2 (List.all_eq_true.1 blank)
  rw [trim, nothing]
  rfl

/-- A blank line is no marker line, unless the marker is empty. -/
theorem opensExcerpt_of_allBlank {marker line : Text} (chosen : marker ≠ [])
    (blank : line.allBlank = true) : opensExcerpt marker line = false := by
  rw [opensExcerpt, Text.trim_of_allBlank blank]
  cases marker with
  | nil => exact absurd rfl chosen
  | cons c marker => rfl

/-- A run ends at the first blank line. -/
theorem excerptLines_append_blank {blank : Text} (isBlank : blank.allBlank = true)
    (lines more : List Text) : excerptLines (lines ++ blank :: more) = excerptLines lines := by
  unfold excerptLines
  induction lines with
  | nil => exact List.takeWhile_cons_of_neg (by simp [isBlank])
  | cons line lines ih => rw [List.cons_append, List.takeWhile_cons, List.takeWhile_cons, ih]

namespace Excerpt.Found

variable {marker : Text} {line : Nat} {lines more : List Text} {found others : List Excerpt}

/-- The search has one outcome. -/
theorem eq_excerptsFrom (search : Found marker line lines found) :
    found = excerptsFrom marker line lines := by
  induction search with
  | nil => rw [excerptsFrom]
  | other closed _ ih => rw [excerptsFrom, if_neg (by simp [closed]), ih]
  | bare opens blank _ ih =>
      rw [excerptsFrom, if_pos opens, blank]
      exact ih
  | run opens run_eq _ ih =>
      rw [excerptsFrom, if_pos opens, run_eq]
      dsimp only
      rw [List.drop_left, ih]

/-- Lines further down hold the same excerpts. -/
theorem lower (count : Nat) (search : Found marker line lines found) :
    Found marker (count + line) lines (found.map (Excerpt.lower count)) := by
  induction search with
  | nil => exact .nil _
  | other closed _ ih => exact .other closed ih
  | bare opens blank _ ih => exact .bare opens blank ih
  | @run line first text texts after found opens run_eq _ ih =>
      rw [List.map_cons, ofLines_lower]
      rw [← Nat.add_assoc, ← Nat.add_assoc] at ih
      exact .run opens run_eq ih

/-- Behind a blank line the search starts anew. -/
theorem append {blank : Text} (isBlank : blank.allBlank = true) (chosen : marker ≠ [])
    (search : Found marker line lines found) {next : Nat} (next_eq : line + lines.length + 1 = next)
    (behind : Found marker next more others) :
    Found marker line (lines ++ blank :: more) (found ++ others) := by
  induction search with
  | nil =>
      obtain rfl : _ = next := next_eq
      exact .other (opensExcerpt_of_allBlank chosen isBlank) behind
  | other closed _ ih =>
      rw [List.length_cons] at next_eq
      exact .other closed (ih (by omega))
  | bare opens nothing _ ih =>
      rw [List.length_cons] at next_eq
      rw [← excerptLines_append_blank isBlank _ more] at nothing
      exact .bare opens nothing (ih (by omega))
  | @run line first text texts after found opens run_eq _ ih =>
      rw [← excerptLines_append_blank isBlank _ more, List.append_assoc] at run_eq
      rw [List.length_cons, List.length_append] at next_eq
      have whole := Found.run opens run_eq (ih (by omega))
      rwa [← List.append_assoc] at whole

end Excerpt.Found

/-! ### Documents -/

/-- An empty line keeps the excerpts in front of it apart from those behind it. -/
theorem excerpts_append_emptyLine {marker : Text} (chosen : marker ≠ []) (first second : Text) :
    excerpts marker (first ++ ['\n', '\n'] ++ second) = excerpts marker first
      ++ (excerpts marker second).map (Excerpt.lower (first ++ ['\n', '\n']).lines.length) := by
  have isBlank : Text.allBlank [] = true := rfl
  obtain ⟨ended, kind, lines_eq⟩ := Text.exists_lines_append first
  have lines_second : (first ++ ['\n', '\n'] ++ second).lines
      = first.lines ++ ended ++ [] :: second.lines := by
    rw [List.append_assoc]
    exact lines_eq ('\n' :: second)
  have length_eq : (first ++ ['\n', '\n']).lines.length
      = first.lines.length + ended.length + 1 := by
    have lines_first : (first ++ ['\n', '\n']).lines = first.lines ++ ended ++ [[]] :=
      lines_eq ['\n']
    rw [lines_first, List.length_append, List.length_append, List.length_singleton]
  have search := Excerpt.found_excerptsFrom marker 0 first.lines
  have behind := (Excerpt.found_excerptsFrom marker 0 second.lines).lower
    (first.lines.length + ended.length + 1)
  rw [length_eq, excerpts, lines_second]
  refine (Excerpt.Found.eq_excerptsFrom ?_).symm
  -- Either the first or the second line feed ends the first empty line.
  rcases kind with rfl | rfl
  · rw [List.append_nil]
    exact search.append isBlank chosen (congrArg (· + 1) (Nat.zero_add _)) behind
  · rw [List.append_assoc]
    exact search.append isBlank chosen (congrArg (· + 1) (Nat.zero_add _))
      (.other (opensExcerpt_of_allBlank chosen isBlank) behind)

/-- **Documents with an empty line between them are analysed independently.** The problems of the
whole are those of the first document, and then those of the second one, further down by as many
lines as stand in front of it. -/
theorem diagnostics_append_emptyLine {marker : Text} (chosen : marker ≠ []) (first second : Text) :
    diagnostics marker (first ++ ['\n', '\n'] ++ second) = diagnostics marker first
      ++ (diagnostics marker second).map
        (Diagnostic.lower (first ++ ['\n', '\n']).lines.length) := by
  have lowered (count : Nat) : Diagnostic.ofExcerpt? ∘ Excerpt.lower count
      = fun excerpt => (Diagnostic.ofExcerpt? excerpt).map (Diagnostic.lower count) :=
    funext fun excerpt => Diagnostic.ofExcerpt?_lower count excerpt
  rw [diagnostics, excerpts_append_emptyLine chosen, List.filterMap_append, List.filterMap_map,
    lowered, ← List.map_filterMap, diagnostics, diagnostics]

/-- The first document ends in a return and inside an excerpt, which the second one does not go on
with. -/
theorem diagnostics_append_emptyLine_of_open_excerpt :
    let first : Text := ".. math::\n\\begin\x7ba\x7d\r".toList
    let second : Text := "\\end\x7ba\x7d\n.. math::\n\\begin\x7bb\x7d".toList
    defaultMarker ≠ [] ∧ (diagnostics defaultMarker first).map Diagnostic.start = [⟨1, 9⟩] ∧
      (diagnostics defaultMarker second).map Diagnostic.start = [⟨2, 9⟩] ∧
      (diagnostics defaultMarker (first ++ ['\n', '\n'] ++ second)).map Diagnostic.start
        = [⟨1, 9⟩, ⟨5, 9⟩] := by
  intro first second
  have chosen : defaultMarker ≠ [] := List.cons_ne_nil _ _
  have above : (diagnostics defaultMarker first).map Diagnostic.start = [⟨1, 9⟩] := by
    decide +kernel
  have below : (diagnostics defaultMarker second).map Diagnostic.start = [⟨2, 9⟩] := by
    decide +kernel
  have three : Text.lines (first ++ ['\n', '\n'])
      = [".. math::".toList, "\\begin\x7ba\x7d".toList, []] := by decide +kernel
  refine ⟨chosen, above, below, ?_⟩
  rw [diagnostics_append_emptyLine chosen, three, List.map_append, above, List.map_map]
  show [⟨1, 9⟩] ++ (diagnostics defaultMarker second).map (Place.lower 3 ∘ Diagnostic.start) = _
  rw [← List.map_map, below]
  rfl

end MathGrammar
