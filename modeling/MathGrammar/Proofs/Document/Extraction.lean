import MathGrammar.Proofs.Document.Runs
import Mathlib.Data.List.Pairwise
import Mathlib.Data.List.TakeWhile

/-! # Excerpts and marker lines

The excerpts of a document are the runs of lines behind its marker lines. Each fills the room from
its marker line to the next blank line, and a marker line that opens no excerpt either has nothing
behind it or belongs to the excerpt of an earlier one. -/

namespace MathGrammar

/-- A line opens an excerpt when it starts with the marker, blanks in front left out. -/
theorem opensExcerpt_iff {marker line : Text} :
    opensExcerpt marker line = true ↔ marker <+: line.trim := List.isPrefixOf_iff_prefix

/-- A run makes up an excerpt when none of its lines is blank and it goes as far as it can. -/
theorem excerptLines_append_eq_iff {run after : List Text} :
    excerptLines (run ++ after) = run ↔
      (∀ line ∈ run, line.allBlank = false) ∧ ∀ line ∈ after.head?, line.allBlank = true := by
  unfold excerptLines
  constructor
  · intro run_eq
    have filled : ∀ line ∈ run, line.allBlank = false := by
      intro line mem
      rw [← run_eq] at mem
      simpa using List.mem_takeWhile_imp mem
    refine ⟨filled, fun line head => ?_⟩
    obtain ⟨rest, rfl⟩ := List.head?_eq_some_iff.1 head
    -- A line that is not blank would have been taken along.
    refine eq_true_of_ne_false fun notBlank => ?_
    rw [List.takeWhile_append_of_pos (by simpa using filled),
      List.takeWhile_cons_of_pos (by simpa using notBlank)] at run_eq
    exact List.cons_ne_nil _ _ (List.append_right_eq_self.1 run_eq)
  · rintro ⟨filled, ends⟩
    rw [List.takeWhile_append_of_pos (by simpa using filled)]
    cases after with
    | nil => exact List.append_nil run
    | cons line rest =>
        rw [List.takeWhile_cons_of_neg (by simpa using ends line rfl), List.append_nil]

/-! ### Segments of a run -/

namespace Segment

/-- The segments of lines number them in turn, and start where the lines before have ended. -/
theorem ofLines_eq_mapIdx (line offset : Nat) (run : List Text) :
    ofLines line offset run
      = run.mapIdx fun i _ => ⟨↑(line + i), ↑(offset + (run.take i).flatten.length)⟩ := by
  induction run generalizing line offset with
  | nil => rfl
  | cons text run ih =>
      rw [ofLines, ih, List.mapIdx_cons]
      congr 1
      refine List.mapIdx_eq_mapIdx_iff.2 fun i lt => ?_
      rw [List.take_succ_cons, List.flatten_cons, List.length_append]
      congr 2 <;> omega

/-- Every line of the run has a segment with its number. -/
theorem mem_lines_ofLines {run : List Text} {i : Nat} (lt : i < run.length) (line offset : Nat) :
    ↑(line + i) ∈ (ofLines line offset run).map Segment.line := by
  rw [ofLines_eq_mapIdx]
  exact List.mem_map.2 ⟨_, List.mem_mapIdx.2 ⟨i, lt, rfl⟩, rfl⟩

/-- Lines that are not empty start at greater and greater offsets. -/
theorem pairwise_offset_ofLines {run : List Text} (filled : ∀ line ∈ run, line ≠ [])
    (line offset : Nat) :
    (ofLines line offset run).Pairwise fun s t => s.offset < t.offset := by
  induction run generalizing line offset with
  | nil => exact .nil
  | cons text run ih =>
      obtain ⟨first, others⟩ := List.forall_mem_cons.1 filled
      refine List.pairwise_cons.2 ⟨?_, ih others _ _⟩
      intro segment mem
      obtain ⟨before, other, after, -, rfl⟩ := exists_of_mem_ofLines mem
      have positive := List.length_pos_iff.2 first
      dsimp only
      omega

end Segment

namespace Excerpt

/-! ### Marked runs -/

/-- The numbers of the lines that make up the excerpt. -/
def lineNumbers (excerpt : Excerpt) : List Int := excerpt.segments.map Segment.line

/-- The excerpt is the run of lines between the marker line `opening` and a blank line or the end of
the document. -/
structure MarkedRun (marker : Text) (lines before : List Text) (opening : Text)
    (run after : List Text) (excerpt : Excerpt) : Prop where
  /-- The marker line stands in front of the run. -/
  lines_eq : lines = before ++ opening :: (run ++ after)
  /-- Blank ends apart, it starts with the marker. -/
  opens : marker <+: opening.trim
  /-- The run has no blank lines. -/
  filled : ∀ line ∈ run, line.allBlank = false
  /-- It is as long as possible. -/
  ends : ∀ line ∈ after.head?, line.allBlank = true
  /-- The content is the run, joined. -/
  content_eq : excerpt.content = run.flatten
  /-- There is a segment for each line, which starts where the lines before have ended. -/
  segments_eq : excerpt.segments = run.mapIdx fun i _ =>
    ⟨↑(before.length + 1 + i), ↑(run.take i).flatten.length⟩
  /-- No two lines start at the same offset. -/
  offsets_lt : excerpt.segments.Pairwise fun s t => s.offset < t.offset
  /-- The first line starts at the start of the content. -/
  offset_eq : (excerpt.segments.head excerpt.nonempty).offset = 0

variable {marker : Text} {line : Nat} {lines : List Text} {found : List Excerpt}
  {excerpt : Excerpt}

/-- Every excerpt that is found is a marked run, which starts behind its opening line. -/
theorem markedRun_of_mem {document : Text} (mem : excerpt ∈ excerpts marker document) :
    ∃ before opening run after, excerpt.startLine = before.length + 1 ∧
      excerpt.MarkedRun marker document.lines before opening run after := by
  obtain ⟨before, opening, text, texts, after, lines_eq, opens, run_eq, rfl⟩ :=
    (found_excerptsFrom marker 0 document.lines).exists_behind mem
  rw [Nat.zero_add]
  obtain ⟨filled, ends⟩ := excerptLines_append_eq_iff.1 run_eq
  have nonempty : ∀ line ∈ text :: texts, line ≠ [] := by
    rintro line mem rfl
    exact absurd (filled [] mem) (by decide)
  refine ⟨before, opening, text :: texts, after, rfl, lines_eq, opensExcerpt_iff.1 opens, filled,
    ends, rfl, ?_, Segment.pairwise_offset_ofLines nonempty _ _, rfl⟩
  show Segment.ofLines (before.length + 1) 0 (text :: texts) = _
  simp only [Segment.ofLines_eq_mapIdx, Nat.zero_add]

/-! ### Marker lines -/

/-- The line on which an excerpt starts is one of its lines. -/
theorem startLine_mem (excerpt : Excerpt) : excerpt.startLine ∈ excerpt.lineNumbers :=
  List.mem_map_of_mem (List.head_mem excerpt.nonempty)

/-- No line of an excerpt comes before its first one. -/
theorem startLine_le {document : Text} (mem : excerpt ∈ excerpts marker document) {number : Int}
    (inside : number ∈ excerpt.lineNumbers) : excerpt.startLine ≤ number := by
  obtain ⟨before, opening, text, texts, after, -, -, -, rfl⟩ :=
    (found_excerptsFrom marker 0 document.lines).exists_behind mem
  obtain ⟨segment, segmentMem, rfl⟩ := List.mem_map.1 inside
  exact (Segment.line_of_mem_ofLines segmentMem).1

/-- Between two excerpts there is at least one line. -/
theorem pairwise_lineNumbers (marker document : Text) :
    (excerpts marker document).Pairwise fun first second =>
      ∀ m ∈ first.lineNumbers, ∀ n ∈ second.lineNumbers, m + 1 < n :=
  (found_excerptsFrom marker 0 document.lines).pairwise_apart.imp fun apart =>
    List.forall_mem_map.2 fun s sMem => List.forall_mem_map.2 fun t tMem => apart s sMem t tMem

/-- The line in front of an excerpt is part of none. -/
theorem not_mem_lineNumbers {document : Text} {other : Excerpt}
    (mem : excerpt ∈ excerpts marker document) (otherMem : other ∈ excerpts marker document) :
    excerpt.startLine - 1 ∉ other.lineNumbers := by
  have apart := pairwise_lineNumbers marker document
  -- The other excerpt is the same, a later or an earlier one.
  have itself : ∀ excerpt ∈ excerpts marker document,
      excerpt.startLine - 1 ∉ excerpt.lineNumbers := by
    intro excerpt mem inside
    have le := startLine_le mem inside
    omega
  have later : (excerpts marker document).Pairwise fun first second =>
      first.startLine - 1 ∉ second.lineNumbers := by
    refine apart.imp fun {first second} less inside => ?_
    have lt := less _ first.startLine_mem _ inside
    omega
  have earlier : (excerpts marker document).Pairwise fun first second =>
      second.startLine - 1 ∉ first.lineNumbers := by
    refine apart.imp fun {first second} less inside => ?_
    have lt := less _ inside _ second.startLine_mem
    omega
  exact later.forall_of_forall_of_flip itself earlier mem otherMem

/-- A marker line in front of a line that is not blank opens an excerpt or is part of one. -/
theorem Found.exists_of_opens (search : Found marker line lines found) {before after : List Text}
    {opening next : Text} (lines_eq : lines = before ++ opening :: next :: after)
    (opens : opensExcerpt marker opening = true) (filled : next.allBlank = false) {number : Nat}
    (number_eq : line + before.length = number) : ∃ excerpt ∈ found,
      excerpt.startLine = ↑(number + 1) ∨ ↑number ∈ excerpt.lineNumbers := by
  -- Along the search, up to the marker line itself or to the run that it belongs to.
  induction search generalizing before with
  | nil => exact absurd lines_eq (by simp)
  | other closed _ ih =>
      cases before with
      | nil =>
          obtain ⟨rfl, -⟩ := List.cons.inj lines_eq
          rw [closed] at opens
          exact absurd opens Bool.false_ne_true
      | cons first before =>
          refine ih (List.cons.inj lines_eq).2 ?_
          rw [← number_eq, List.length_cons]
          omega
  | bare _ blank _ ih =>
      cases before with
      | nil =>
          obtain ⟨-, rfl⟩ := List.cons.inj lines_eq
          rw [excerptLines, List.takeWhile_cons_of_pos (by simpa using filled)] at blank
          exact absurd blank (List.cons_ne_nil _ _)
      | cons first before =>
          refine ih (List.cons.inj lines_eq).2 ?_
          rw [← number_eq, List.length_cons]
          omega
  | @run line _ text texts behind _ _ _ _ ih =>
      cases before with
      | nil =>
          obtain rfl : line = number := number_eq
          exact ⟨_, List.mem_cons_self, .inl rfl⟩
      | cons first before =>
          have rest_eq : text :: texts ++ behind = before ++ opening :: next :: after :=
            (List.cons.inj lines_eq).2
          rw [List.length_cons] at number_eq
          by_cases inside : before.length < (text :: texts).length
          · refine ⟨_, List.mem_cons_self, .inr ?_⟩
            have number_eq' : number = line + 1 + before.length := by omega
            rw [number_eq']
            exact Segment.mem_lines_ofLines inside (line + 1) 0
          · obtain ⟨more, rfl⟩ : text :: texts <+: before :=
              List.prefix_of_prefix_length_le ⟨behind, rest_eq⟩ (List.prefix_append _ _)
                (Nat.le_of_not_lt inside)
            rw [List.append_assoc] at rest_eq
            rw [List.length_append] at number_eq
            obtain ⟨excerpt, mem, covers⟩ := ih (List.append_cancel_left rest_eq) (by omega)
            exact ⟨excerpt, List.mem_cons_of_mem _ mem, covers⟩

/-- **The excerpts are the marked runs.** Each excerpt of a document is the run of lines from a
marker line to the next blank line, and that marker line is part of no excerpt; the lines of an
excerpt come before those of the next; and a marker line in front of a line that is not blank opens
an excerpt or is part of one. -/
theorem excerpts_are_marked_runs (marker document : Text) :
    (∀ excerpt ∈ excerpts marker document, ∃ before opening run after,
      excerpt.MarkedRun marker document.lines before opening run after ∧
        ∀ other ∈ excerpts marker document, ↑before.length ∉ other.lineNumbers) ∧
    ((excerpts marker document).Pairwise fun first second =>
      ∀ m ∈ first.lineNumbers, ∀ n ∈ second.lineNumbers, m < n) ∧
    (∀ (before after : List Text) (opening next : Text),
      document.lines = before ++ opening :: next :: after → marker <+: opening.trim →
        next.allBlank = false → ∃ excerpt ∈ excerpts marker document,
          excerpt.startLine = before.length + 1 ∨ ↑before.length ∈ excerpt.lineNumbers) := by
  refine ⟨fun excerpt mem => ?_, ?_, ?_⟩
  · obtain ⟨before, opening, run, after, start_eq, marked⟩ := markedRun_of_mem mem
    refine ⟨before, opening, run, after, marked, fun other otherMem => ?_⟩
    have outside := not_mem_lineNumbers mem otherMem
    rwa [start_eq, Int.add_sub_cancel] at outside
  · refine (pairwise_lineNumbers marker document).imp fun apart m mMem n nMem => ?_
    have lt := apart m mMem n nMem
    omega
  · intro before after opening next lines_eq opens filled
    exact (found_excerptsFrom marker 0 document.lines).exists_of_opens lines_eq
      (opensExcerpt_iff.2 opens) filled (Nat.zero_add _)

/-- Of four marker lines the first opens an excerpt, which the next two are part of, and the last
one has nothing behind it. -/
theorem excerpts_are_marked_runs_of_four_markers :
    let document : Text := ".. math::\n.. math:: x\ny\r\n .. math::\n\n.. math::\n".toList
    (excerpts defaultMarker document).map lineNumbers = [[1, 2, 3]] ∧
      (∃ excerpt ∈ excerpts defaultMarker document,
        excerpt.startLine = 2 ∨ 1 ∈ excerpt.lineNumbers) ∧
      ∀ excerpt ∈ excerpts defaultMarker document, ∃ before opening run after,
        excerpt.MarkedRun defaultMarker document.lines before opening run after := by
  intro document
  obtain ⟨runs, -, covered⟩ := excerpts_are_marked_runs defaultMarker document
  refine ⟨by decide +kernel, ?_, fun excerpt mem => ?_⟩
  · exact covered [".. math::".toList] _ ".. math:: x".toList ['y'] rfl (by decide) (by decide)
  · obtain ⟨before, opening, run, after, marked, -⟩ := runs excerpt mem
    exact ⟨before, opening, run, after, marked⟩

end Excerpt

end MathGrammar
