import MathGrammar.Proofs.Document.Runs
import Mathlib.Data.List.Basic
import Mathlib.Data.List.GetD
import Mathlib.Logic.ExistsUnique

/-! # Places of offsets

The segments of an excerpt map the offsets of its content back to the document, one to one: each
character of the content to the place from which it came, and the end of the content to the end of
the last line. Looking an offset up by halving amounts to counting the segments that start at it or
before it. -/

namespace MathGrammar

/-! ### Halving -/

namespace Segment

/-- Where the offsets up to `position` stand in front of those beyond it, halving finds the border
between them. -/
theorem upperBound_append {low high : List Int} {position : Int} (upTo : ∀ x ∈ low, x ≤ position)
    (beyond : ∀ x ∈ high, position < x) (first last : Nat) (first_le : first ≤ low.length)
    (le_last : low.length ≤ last) (last_le : last ≤ (low ++ high).length) :
    upperBound (low ++ high) position first last = low.length := by
  rw [List.length_append] at last_le
  fun_induction upperBound (low ++ high) position first last with
  | case1 first last lt middle less ih =>
      -- The offset in the middle is one of the second kind, and the search goes on before it.
      have le_middle : low.length ≤ middle := by
        refine Nat.le_of_not_lt fun inside => ?_
        rw [List.getD_append _ _ _ _ inside, List.getD_eq_getElem _ _ inside] at less
        have le := upTo _ (List.getElem_mem inside)
        omega
      exact ih first_le le_middle (by omega)
  | case2 first last lt middle notLess ih =>
      have middle_lt : middle < low.length := by
        refine Nat.lt_of_not_le fun outside => ?_
        have inside : middle - low.length < high.length := by omega
        rw [List.getD_append_right _ _ _ _ outside, List.getD_eq_getElem _ _ inside] at notLess
        exact notLess (beyond _ (List.getElem_mem inside))
      exact ih middle_lt le_last last_le
  | case3 first last ge => omega

/-- Where sorted values first go beyond `position`, they split in two. -/
theorem exists_split_of_sorted {α : Type} {f : α → Int} {xs : List α}
    (sorted : xs.Pairwise fun x y => f x ≤ f y) (position : Int) : ∃ low high, xs = low ++ high ∧
      (∀ x ∈ low, f x ≤ position) ∧ ∀ x ∈ high, position < f x := by
  induction xs with
  | nil => exact ⟨[], [], rfl, by simp, by simp⟩
  | cons x xs ih =>
      obtain ⟨least, sorted⟩ := List.pairwise_cons.1 sorted
      by_cases le : f x ≤ position
      · obtain ⟨low, high, rfl, upTo, beyond⟩ := ih sorted
        exact ⟨x :: low, high, rfl, List.forall_mem_cons.2 ⟨le, upTo⟩, beyond⟩
      · refine ⟨[], x :: xs, rfl, by simp, List.forall_mem_cons.2 ⟨by omega, ?_⟩⟩
        intro y mem
        have x_le := least y mem
        omega

/-- Among sorted offsets halving counts those up to `position`. -/
theorem upperBound_eq_countP {offsets : List Int} (sorted : offsets.Pairwise (· ≤ ·))
    (position : Int) :
    upperBound offsets position 0 offsets.length = offsets.countP (· ≤ position) := by
  obtain ⟨low, high, rfl, upTo, beyond⟩ := exists_split_of_sorted sorted position
  have low_count : low.countP (· ≤ position) = low.length :=
    List.countP_eq_length.2 fun x mem => by simpa using upTo x mem
  have high_count : high.countP (· ≤ position) = 0 :=
    List.countP_eq_zero.2 fun x mem => by simpa using beyond x mem
  rw [upperBound_append upTo beyond 0 _ (Nat.zero_le _) (by simp) (Nat.le_refl _),
    List.countP_append, low_count, high_count, Nat.add_zero]

/-- Segments whose lines and offsets go up. -/
def Ascending (segments : List Segment) : Prop :=
  segments.Pairwise fun s t => s.line < t.line ∧ s.offset ≤ t.offset

/-- Each line of an excerpt starts behind the one before it, as the line feed in between counts. -/
theorem ascending_ofLines (line offset : Nat) (run : List Text) :
    Ascending (ofLines line offset run) := by
  induction run generalizing line offset with
  | nil => exact .nil
  | cons text run ih =>
      refine List.pairwise_cons.2 ⟨?_, ih _ _⟩
      intro segment mem
      obtain ⟨before, other, after, -, rfl⟩ := exists_of_mem_ofLines mem
      constructor <;> dsimp only <;> omega

/-- The segment of a later offset is the same one or a later one. -/
theorem index_mono {segments : List Segment}
    (ascending : segments.Pairwise fun s t => s.offset ≤ t.offset) {p q : Int} (le : p ≤ q) :
    index segments p ≤ index segments q := by
  have sorted : (segments.map Segment.offset).Pairwise (· ≤ ·) := List.pairwise_map.2 ascending
  have counts : (segments.map Segment.offset).countP (· ≤ p)
      ≤ (segments.map Segment.offset).countP (· ≤ q) := by
    refine List.countP_mono_left fun x _ => ?_
    simp only [decide_eq_true_eq]
    omega
  have length_eq : segments.length = (segments.map Segment.offset).length :=
    (List.length_map _).symm
  unfold index
  rw [length_eq, upperBound_eq_countP sorted, upperBound_eq_countP sorted]
  omega

/-- The segment of an offset stands in front of those that start beyond the offset. -/
theorem index_append {before after : List Segment} {holder : Segment} {position : Int}
    (upTo : ∀ s ∈ before ++ [holder], s.offset ≤ position)
    (beyond : ∀ s ∈ after, position < s.offset) :
    index (before ++ holder :: after) position = before.length := by
  have upTo' : ∀ x ∈ (before ++ [holder]).map Segment.offset, x ≤ position :=
    List.forall_mem_map.2 upTo
  have beyond' : ∀ x ∈ after.map Segment.offset, position < x := List.forall_mem_map.2 beyond
  have bound := upperBound_append upTo' beyond' 0 (before ++ holder :: after).length
    (Nat.zero_le _) (by simp) (by simp)
  rw [← List.map_append, List.append_assoc, List.singleton_append] at bound
  rw [index, bound, List.length_map, List.length_append, List.length_singleton,
    Nat.add_sub_cancel]

end Segment

/-! ### Places -/

/-- The place comes first in the document. -/
def Place.Before (first second : Place) : Prop :=
  first.line < second.line ∨ first.line = second.line ∧ first.column < second.column

/-- No place lies before itself. -/
theorem Place.Before.ne {first second : Place} (before : first.Before second) : first ≠ second := by
  rintro rfl
  rcases before with lt | ⟨-, lt⟩ <;> omega

namespace Excerpt

variable {excerpt : Excerpt} {line start : Nat} {lines run : List Text}

/-- The place of an offset is counted from the segment that holds it. -/
theorem locate_eq_place {before after : List Segment} {holder : Segment} {position : Int}
    (segments_eq : excerpt.segments = before ++ holder :: after)
    (upTo : ∀ s ∈ before ++ [holder], s.offset ≤ position)
    (beyond : ∀ s ∈ after, position < s.offset) :
    excerpt.locate position = holder.place position := by
  have located := excerpt.locate?_segments position
  rw [segments_eq, Segment.locate?, Segment.index_append upTo beyond,
    List.getElem?_append_right (Nat.le_refl _), Nat.sub_self] at located
  exact (Option.some.inj located).symm

/-- A later offset has a later place. -/
theorem before_locate (ascending : Segment.Ascending excerpt.segments) {p q : Int} (lt : p < q) :
    (excerpt.locate p).Before (excerpt.locate q) := by
  have p_lt := Segment.index_lt excerpt.segments p excerpt.nonempty
  have q_lt := Segment.index_lt excerpt.segments q excerpt.nonempty
  show (excerpt.segments[Segment.index excerpt.segments p].place p).Before
    (excerpt.segments[Segment.index excerpt.segments q].place q)
  have offsets := ascending.imp And.right
  rcases Nat.lt_or_eq_of_le (Segment.index_mono offsets (Int.le_of_lt lt)) with less | same
  · exact .inl (List.pairwise_iff_getElem.1 ascending _ _ p_lt q_lt less).1
  · -- On one line the columns go up with the offsets.
    refine .inr ⟨?_, ?_⟩
    · simp only [Segment.place, same]
    · simp only [Segment.place, same]
      omega

namespace Spans

variable (spans : excerpt.Spans line lines start run)

include spans

/-- The segments of an excerpt start one behind the other. -/
theorem ascending : Segment.Ascending excerpt.segments :=
  spans.segments_eq ▸ Segment.ascending_ofLines start 0 run

/-- An excerpt holds a line at least. -/
theorem run_ne_nil : run ≠ [] := by
  rintro rfl
  exact excerpt.nonempty spans.segments_eq

/-- The lines of the run are those of the document from its start on. -/
theorem getElem?_lines {before after : List Text} {text : Text}
    (run_eq : run = before ++ text :: after) :
    lines[start + before.length - line]? = some text := by
  obtain ⟨⟨front, behind, rfl, rfl⟩, -, -⟩ := spans
  subst run_eq
  have index_eq : line + front.length + before.length - line = front.length + before.length := by
    omega
  rw [index_eq, List.append_assoc, List.getElem?_append_right (Nat.le_add_right _ _),
    Nat.add_sub_cancel_left, List.getElem?_append_right (Nat.le_refl _), Nat.sub_self]
  rfl

/-- A place on a line of the run is where the offset of the line and the column lead. Only behind
the last line may the column lie beyond the line. -/
theorem locate_line {before after : List Text} {text : Text}
    (run_eq : run = before ++ text :: after) {column : Nat}
    (inside : column < text.length ∨ after = []) :
    excerpt.locate ↑(before.flatten.length + column) = ⟨↑(start + before.length), column⟩ := by
  have segments_eq := spans.segments_eq
  rw [run_eq, Segment.ofLines_append, Segment.ofLines, Nat.zero_add] at segments_eq
  rw [locate_eq_place segments_eq]
  · simp only [Segment.place, Place.mk.injEq, true_and]
    omega
  · intro s mem
    rcases List.mem_append.1 mem with mem | mem
    · obtain ⟨front, other, rest, rfl, rfl⟩ := Segment.exists_of_mem_ofLines mem
      simp only [List.flatten_append, List.length_append]
      omega
    · obtain rfl := List.mem_singleton.1 mem
      dsimp only
      omega
  · intro s mem
    rcases inside with inside | rfl
    · obtain ⟨front, other, rest, -, rfl⟩ := Segment.exists_of_mem_ofLines mem
      dsimp only
      omega
    · exact absurd mem List.not_mem_nil

end Spans

/-- An offset inside joined lines lies in one of them. -/
theorem exists_line_of_lt {run : List Text} {position : Nat}
    (inside : position < run.flatten.length) :
    ∃ before text after column, run = before ++ text :: after ∧ column < text.length ∧
      position = before.flatten.length + column := by
  induction run generalizing position with
  | nil => exact absurd inside (Nat.not_lt_zero _)
  | cons first run ih =>
      by_cases inFirst : position < first.length
      · exact ⟨[], first, run, position, rfl, inFirst, (Nat.zero_add _).symm⟩
      · rw [List.flatten_cons, List.length_append] at inside
        have behind : position - first.length < run.flatten.length := by omega
        obtain ⟨before, text, after, column, rfl, lt, position_eq⟩ := ih behind
        refine ⟨first :: before, text, after, column, rfl, lt, ?_⟩
        rw [List.flatten_cons, List.length_append]
        omega

/-- The characters of a line are those of the joined lines from the offset of the line on. -/
theorem getElem?_flatten {before after : List Text} {text : Text} {column : Nat}
    (inside : column < text.length) :
    (before ++ text :: after).flatten[before.flatten.length + column]? = text[column]? := by
  rw [List.flatten_append, List.flatten_cons, List.getElem?_append_right (Nat.le_add_right _ _),
    Nat.add_sub_cancel_left, List.getElem?_append_left inside]

namespace Spans

variable {document : Text}

/-- Inside the content an offset has its place on the line that holds it. -/
theorem exists_place (spans : excerpt.Spans 0 lines start run) {position : Nat}
    (inside : position < excerpt.content.length) : ∃ (line column : Nat) (text : Text),
      excerpt.locate position = ⟨line, column⟩ ∧ ↑line ∈ excerpt.segments.map Segment.line ∧
        lines[line]? = some text ∧ column < text.length ∧
          text[column]? = excerpt.content[position]? := by
  rw [spans.content_eq] at inside
  obtain ⟨before, text, after, column, run_eq, lt, rfl⟩ := exists_line_of_lt inside
  refine ⟨start + before.length, column, text, spans.locate_line run_eq (.inl lt), ?_,
    spans.getElem?_lines run_eq, lt, ?_⟩
  · rw [spans.segments_eq, run_eq, Segment.ofLines_append, List.map_append]
    exact List.mem_append_right _ List.mem_cons_self
  · rw [spans.content_eq, run_eq, getElem?_flatten lt]

/-- Every place on a line of the excerpt comes from one offset and no other. -/
theorem exists_line_of_segment (spans : excerpt.Spans 0 lines start run) {segment : Segment}
    (mem : segment ∈ excerpt.segments) : ∃ (line : Nat) (text : Text), segment.line = line ∧
      lines[line]? = some text ∧ ∀ column < text.length,
        ∃! position : Nat, position < excerpt.content.length ∧
          excerpt.locate position = ⟨line, column⟩ := by
  have segment_mem := mem
  rw [spans.segments_eq] at segment_mem
  obtain ⟨before, text, after, run_eq, rfl⟩ := Segment.exists_of_mem_ofLines segment_mem
  refine ⟨start + before.length, text, rfl, spans.getElem?_lines run_eq, fun column lt => ?_⟩
  refine ⟨before.flatten.length + column, ⟨?_, spans.locate_line run_eq (.inl lt)⟩, ?_⟩
  · rw [spans.content_eq, run_eq]
    simp only [List.flatten_append, List.flatten_cons, List.length_append]
    omega
  · -- Another offset would be an earlier or a later one, and so would its place.
    rintro other ⟨-, other_eq⟩
    rw [← spans.locate_line run_eq (.inl lt)] at other_eq
    rcases Nat.lt_trichotomy other (before.flatten.length + column) with less | same | more
    · exact absurd other_eq (before_locate spans.ascending (Int.ofNat_lt.2 less)).ne
    · exact same
    · exact absurd other_eq.symm (before_locate spans.ascending (Int.ofNat_lt.2 more)).ne

/-- The end of the content has its place at the end of the last line. -/
theorem locate_end (spans : excerpt.Spans 0 lines start run) : ∃ (line : Nat) (text : Text),
    (excerpt.segments.getLast excerpt.nonempty).line = line ∧ lines[line]? = some text ∧
      excerpt.locate excerpt.content.length = ⟨line, text.length⟩ := by
  obtain empty | ⟨before, text, run_eq⟩ := List.eq_nil_or_concat run
  · exact absurd empty spans.run_ne_nil
  rw [List.concat_eq_append] at run_eq
  refine ⟨start + before.length, text, ?_, spans.getElem?_lines run_eq, ?_⟩
  · have segments_eq : excerpt.segments = Segment.ofLines start 0 before
        ++ [⟨↑(start + before.length), ↑(0 + before.flatten.length)⟩] := by
      rw [spans.segments_eq, run_eq, Segment.ofLines_append]
      rfl
    rw [List.getLast_congr excerpt.nonempty (by simp) segments_eq, List.getLast_append_singleton]
  · have length_eq : excerpt.content.length = before.flatten.length + text.length := by
      rw [spans.content_eq, run_eq, List.flatten_append, List.length_append, List.flatten_singleton]
    rw [length_eq]
    exact spans.locate_line run_eq (.inr rfl)

end Spans

/-- **Offsets map back to the characters they came from.** In every excerpt of a document each
offset of the content has its place on a line of the excerpt, where the same character stands; later
offsets have later places; every place on a line of the excerpt comes from exactly one offset; and
the end of the content has its place at the end of the last line. -/
theorem locate_exact {marker document : Text} {excerpt : Excerpt}
    (mem : excerpt ∈ excerpts marker document) :
    (∀ position < excerpt.content.length, ∃ (line column : Nat) (text : Text),
      excerpt.locate position = ⟨line, column⟩ ∧ ↑line ∈ excerpt.segments.map Segment.line ∧
        document.lines[line]? = some text ∧ column < text.length ∧
          text[column]? = excerpt.content[position]?) ∧
    (∀ p q : Int, p < q → (excerpt.locate p).Before (excerpt.locate q)) ∧
    (∀ segment ∈ excerpt.segments, ∃ (line : Nat) (text : Text), segment.line = line ∧
      document.lines[line]? = some text ∧ ∀ column < text.length,
        ∃! position : Nat, position < excerpt.content.length ∧
          excerpt.locate position = ⟨line, column⟩) ∧
    (∃ (line : Nat) (text : Text), (excerpt.segments.getLast excerpt.nonempty).line = line ∧
      document.lines[line]? = some text ∧
        excerpt.locate excerpt.content.length = ⟨line, text.length⟩) := by
  obtain ⟨start, run, spans⟩ := exists_spans_of_mem mem
  refine ⟨fun position inside => spans.exists_place inside, fun p q lt => ?_,
    fun segment segmentMem => spans.exists_line_of_segment segmentMem, spans.locate_end⟩
  exact before_locate spans.ascending lt

/-- Two lines that end in different ways, behind a marker with space in front of it. -/
theorem locate_exact_two_lines :
    let document : Text := "a\r\n  .. math::\n\\K\r\\X y\n\nb".toList
    let excerpt : Excerpt := .ofLines 2 ['\\', 'K'] [['\\', 'X', ' ', 'y']]
    excerpt ∈ excerpts defaultMarker document ∧
      (∃ (line column : Nat) (text : Text), excerpt.locate 3 = ⟨line, column⟩ ∧
        ↑line ∈ excerpt.segments.map Segment.line ∧ document.lines[line]? = some text ∧
          column < text.length ∧ text[column]? = some 'X') ∧
      excerpt.locate 3 = ⟨3, 1⟩ ∧ (excerpt.locate 3).Before (excerpt.locate 6) := by
  intro document excerpt
  have mem : excerpt ∈ excerpts defaultMarker document := by
    have only : excerpts defaultMarker document = [excerpt] := by decide +kernel
    rw [only]
    exact List.mem_singleton_self excerpt
  obtain ⟨places, later, -, -⟩ := locate_exact mem
  exact ⟨mem, places 3 (by decide), by decide +kernel, later 3 6 (by decide)⟩

end Excerpt

end MathGrammar
