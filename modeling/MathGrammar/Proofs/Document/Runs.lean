import MathGrammar.Document.Excerpt

/-! # Excerpts as runs of lines

An excerpt consists of consecutive lines of its document, and its segments number these lines and
add up their lengths. The runs of different excerpts do not meet, and follow one another in the
order of the excerpts. -/

namespace MathGrammar

/-! ### Segments of lines -/

namespace Segment

/-- The segments of more lines number them on and start where the lines before them end. -/
theorem ofLines_append (line offset : Nat) (before after : List Text) :
    ofLines line offset (before ++ after) = ofLines line offset before
      ++ ofLines (line + before.length) (offset + before.flatten.length) after := by
  induction before generalizing line offset with
  | nil => rfl
  | cons text before ih =>
      rw [List.cons_append, ofLines, ofLines, ih, List.cons_append, List.length_cons,
        List.flatten_cons, List.length_append]
      congr 3 <;> omega

/-- Every segment is that of one of the lines. -/
theorem exists_of_mem_ofLines {line offset : Nat} {run : List Text} {segment : Segment}
    (mem : segment ∈ ofLines line offset run) : ∃ before text after, run = before ++ text :: after ∧
      segment = ⟨↑(line + before.length), ↑(offset + before.flatten.length)⟩ := by
  induction run generalizing line offset with
  | nil => exact absurd mem List.not_mem_nil
  | cons text run ih =>
      rcases List.mem_cons.1 mem with rfl | mem
      · exact ⟨[], text, run, rfl, rfl⟩
      · obtain ⟨before, other, after, rfl, rfl⟩ := ih mem
        refine ⟨text :: before, other, after, rfl, ?_⟩
        rw [List.length_cons, List.flatten_cons, List.length_append]
        congr 2 <;> omega

/-- The segments number the lines in turn. -/
theorem line_of_mem_ofLines {line offset : Nat} {run : List Text} {segment : Segment}
    (mem : segment ∈ ofLines line offset run) :
    (line : Int) ≤ segment.line ∧ segment.line < line + run.length := by
  obtain ⟨before, text, after, rfl, rfl⟩ := exists_of_mem_ofLines mem
  rw [List.length_append, List.length_cons]
  constructor <;> dsimp only <;> omega

end Segment

/-! ### The search for excerpts -/

namespace Excerpt

/-- The excerpts in lines, the first of which is line `line`. -/
inductive Found (marker : Text) : Nat → List Text → List Excerpt → Prop where
  /-- There are no lines left. -/
  | nil (line : Nat) : Found marker line [] []
  /-- A line that is no marker line. -/
  | other {line : Nat} {first : Text} {rest : List Text} {found : List Excerpt}
    (closed : opensExcerpt marker first = false) (others : Found marker (line + 1) rest found) :
    Found marker line (first :: rest) found
  /-- A marker line that no excerpt follows. -/
  | bare {line : Nat} {first : Text} {rest : List Text} {found : List Excerpt}
    (opens : opensExcerpt marker first = true) (blank : excerptLines rest = [])
    (others : Found marker (line + 1) rest found) : Found marker line (first :: rest) found
  /-- A marker line and the excerpt behind it. -/
  | run {line : Nat} {first text : Text} {texts after : List Text} {found : List Excerpt}
    (opens : opensExcerpt marker first = true)
    (run_eq : excerptLines (text :: texts ++ after) = text :: texts)
    (others : Found marker (line + 1 + (text :: texts).length) after found) :
    Found marker line (first :: (text :: texts ++ after)) (ofLines (line + 1) text texts :: found)

/-- The lines of an excerpt, and those behind them. -/
theorem excerptLines_append_drop (lines : List Text) :
    excerptLines lines ++ lines.drop (excerptLines lines).length = lines :=
  List.prefix_iff_eq_append.1 (List.takeWhile_prefix _)

/-- The loop over the lines makes such a search. -/
theorem found_excerptsFrom (marker : Text) (line : Nat) (lines : List Text) :
    Found marker line lines (excerptsFrom marker line lines) := by
  -- On the number of lines: the search goes on behind the marker line, or behind its run.
  induction length_eq : lines.length using Nat.strongRecOn generalizing line lines with
  | ind n ih =>
      rcases lines with _ | ⟨first, rest⟩
      · rw [excerptsFrom]
        exact .nil line
      rw [List.length_cons] at length_eq
      rw [excerptsFrom]
      by_cases opens : opensExcerpt marker first = true
      · rw [if_pos opens]
        have rest_eq := excerptLines_append_drop rest
        cases run_eq : excerptLines rest with
        | nil => exact .bare opens run_eq (ih rest.length (by omega) (line + 1) rest rfl)
        | cons text texts =>
            rw [run_eq] at rest_eq
            dsimp only
            generalize rest.drop (text :: texts).length = after at rest_eq ⊢
            subst rest_eq
            rw [List.length_append] at length_eq
            exact .run opens run_eq (ih after.length (by omega) _ after rfl)
      · rw [if_neg opens]
        exact .other (Bool.eq_false_iff.2 opens) (ih rest.length (by omega) (line + 1) rest rfl)

/-! ### Runs -/

/-- The excerpt consists of the lines `run`, the first of which is line `start`, where the given
lines are numbered from `line` on. -/
structure Spans (line : Nat) (lines : List Text) (start : Nat) (run : List Text)
    (excerpt : Excerpt) : Prop where
  /-- The run is part of the lines. -/
  lines_eq : ∃ before after, lines = before ++ (run ++ after) ∧ line + before.length = start
  /-- The content is the run, joined. -/
  content_eq : excerpt.content = run.flatten
  /-- The segments are those of the run. -/
  segments_eq : excerpt.segments = Segment.ofLines start 0 run

variable {marker : Text} {line start : Nat} {lines run : List Text} {found : List Excerpt}
  {excerpt : Excerpt}

/-- Every excerpt stands behind a marker line, and its run ends where it has to. -/
theorem Found.exists_behind (search : Found marker line lines found) (mem : excerpt ∈ found) :
    ∃ before opening text texts after, lines = before ++ opening :: (text :: texts ++ after) ∧
      opensExcerpt marker opening = true ∧ excerptLines (text :: texts ++ after) = text :: texts ∧
        excerpt = ofLines (line + before.length + 1) text texts := by
  induction search with
  | nil => exact absurd mem List.not_mem_nil
  | @other line first _ _ _ _ ih | @bare line first _ _ _ _ _ ih =>
      obtain ⟨before, opening, text, texts, after, rfl, opens, run_eq, rfl⟩ := ih mem
      refine ⟨first :: before, opening, text, texts, after, rfl, opens, run_eq, ?_⟩
      rw [List.length_cons, Nat.add_right_comm line 1, Nat.add_assoc line]
  | @run line first text texts after _ opens run_eq _ ih =>
      rcases List.mem_cons.1 mem with rfl | mem
      · exact ⟨[], first, text, texts, after, rfl, opens, run_eq, rfl⟩
      · -- The excerpt is found behind the run of the first one.
        obtain ⟨before, opening, other, others, behind, rfl, opens, run_eq, rfl⟩ := ih mem
        refine ⟨first :: (text :: texts ++ before), opening, other, others, behind, ?_, opens,
          run_eq, ?_⟩
        · exact congrArg (first :: ·) (List.append_assoc _ _ _).symm
        · congr 1
          simp only [List.length_cons, List.length_append]
          omega

/-- Every excerpt that is found spans a run of the lines. -/
theorem Found.exists_spans (search : Found marker line lines found) (mem : excerpt ∈ found) :
    ∃ start run, excerpt.Spans line lines start run := by
  obtain ⟨before, opening, text, texts, after, rfl, -, -, rfl⟩ := search.exists_behind mem
  refine ⟨line + before.length + 1, text :: texts, ⟨before ++ [opening], after, ?_, ?_⟩, rfl, rfl⟩
  · rw [List.append_assoc, List.singleton_append]
  · rw [List.length_append, List.length_singleton, Nat.add_assoc]

/-- Between the lines of an excerpt and those of the excerpts behind it there is another line. -/
theorem Found.pairwise_apart (search : Found marker line lines found) :
    found.Pairwise fun first second =>
      ∀ s ∈ first.segments, ∀ t ∈ second.segments, s.line + 1 < t.line := by
  induction search with
  | nil => exact .nil
  | other _ _ ih => exact ih
  | bare _ _ _ ih => exact ih
  | @run line first text texts after found _ _ others ih =>
      refine List.pairwise_cons.2 ⟨?_, ih⟩
      intro second mem s sMem t tMem
      -- The other line is the marker line of the second excerpt, which is behind the first one.
      obtain ⟨before, _, _, _, _, -, -, -, rfl⟩ := others.exists_behind mem
      have sBounds := Segment.line_of_mem_ofLines sMem
      have tBounds := Segment.line_of_mem_ofLines tMem
      omega

/-- The segments of an excerpt number lines that come before those of the excerpts behind it. -/
theorem Found.pairwise (search : Found marker line lines found) :
    found.Pairwise fun first second =>
      ∀ s ∈ first.segments, ∀ t ∈ second.segments, s.line < t.line := by
  refine search.pairwise_apart.imp fun apart s sMem t tMem => ?_
  have less := apart s sMem t tMem
  omega

/-- Every excerpt of a document spans a run of its lines. -/
theorem exists_spans_of_mem {document : Text} (mem : excerpt ∈ excerpts marker document) :
    ∃ start run, excerpt.Spans 0 document.lines start run :=
  (found_excerptsFrom marker 0 document.lines).exists_spans mem

end Excerpt

end MathGrammar
