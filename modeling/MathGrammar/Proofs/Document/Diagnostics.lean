import MathGrammar.Diagnostic
import MathGrammar.Proofs.Document.Location
import MathGrammar.Proofs.Progress

/-! # Diagnostics in their excerpts

Every excerpt that is not a block gives one diagnostic, in the order of the excerpts. It lies on a
line of its excerpt, as every fault lies in the content. -/

namespace MathGrammar

/-! ### Offsets of faults -/

/-- What is wrong with a text is wrong somewhere in it. -/
theorem offset_le_of_parseMathBlock {text : Text} {fault : Fault}
    (failed : parseMathBlock text = .error fault) : fault.offset ≤ text.length := by
  have bounded := Parser.advances_mathBlock nestingLimit (.start text)
  unfold parseMathBlock Parser.run at failed
  generalize Parser.mathBlock nestingLimit (.start text) = outcome at bounded failed
  cases bounded with
  | ok value => exact nomatch failed
  | fail ahead =>
      obtain rfl := Except.error.inj failed
      have notBehind := ahead.2
      rwa [Cursor.offset_start, Cursor.rest_start, Nat.zero_add] at notBehind
  | tooDeep =>
      obtain rfl := Except.error.inj failed
      exact Nat.zero_le _

/-- What is left of the content behind the block at its start, if it starts with one. -/
def Excerpt.remainder? (excerpt : Excerpt) : Option Text :=
  (parseMathBlock excerpt.content).toOption.map Prod.snd

namespace Diagnostic

variable {excerpt : Excerpt} {diagnostic : Diagnostic} {marker document : Text}

/-- The diagnostic marks one character on a line of the excerpt, or the end of the line. -/
def LiesIn (lines : List Text) (excerpt : Excerpt) (diagnostic : Diagnostic) : Prop :=
  ∃ (line column : Nat) (text : Text), ↑line ∈ excerpt.segments.map Segment.line ∧
    lines[line]? = some text ∧ column ≤ text.length ∧ diagnostic.start = ⟨line, column⟩ ∧
      diagnostic.stop = ⟨line, column + 1⟩

/-- A diagnostic is about an offset of the content, unless nothing is left of it. -/
theorem ofExcerpt?_cases (excerpt : Excerpt) :
    (ofExcerpt? excerpt = none ∧ excerpt.remainder? = some []) ∨
      ∃ offset message, offset ≤ excerpt.content.length ∧ excerpt.remainder? ≠ some [] ∧
        ofExcerpt? excerpt = some (ofOffset excerpt offset message) := by
  unfold ofExcerpt? Excerpt.verdict Excerpt.remainder?
  cases parsed : parseMathBlock excerpt.content with
  | error fault =>
      exact .inr ⟨fault.offset, _, offset_le_of_parseMathBlock parsed, nofun, rfl⟩
  | ok read =>
      obtain ⟨block, rest⟩ := read
      cases rest with
      | nil => exact .inl ⟨rfl, rfl⟩
      | cons c rest => exact .inr ⟨_, _, Nat.sub_le _ _, by simp [Except.toOption], rfl⟩

/-- A diagnostic about an offset of the content lies in the excerpt. -/
theorem liesIn_ofOffset {lines run : List Text} {start offset : Nat}
    (spans : excerpt.Spans 0 lines start run) (inside : offset ≤ excerpt.content.length)
    (message : String) : (ofOffset excerpt offset message).LiesIn lines excerpt := by
  rcases Nat.lt_or_eq_of_le inside with lt | rfl
  · obtain ⟨line, column, text, located, mem, line_eq, column_lt, -⟩ := spans.exists_place lt
    refine ⟨line, column, text, mem, line_eq, Nat.le_of_lt column_lt, located, ?_⟩
    simp only [ofOffset, located]
  · -- Behind the last character the place is the end of the last line.
    obtain ⟨line, text, last_eq, line_eq, located⟩ := spans.locate_end
    refine ⟨line, text.length, text, ?_, line_eq, Nat.le_refl _, located, ?_⟩
    · rw [← last_eq]
      exact List.mem_map_of_mem (List.getLast_mem _)
    · simp only [ofOffset, located]

/-- The problem that is reported for an excerpt lies on one of its lines. -/
theorem liesIn_of_ofExcerpt? {lines run : List Text} {start : Nat}
    (spans : excerpt.Spans 0 lines start run) (found : ofExcerpt? excerpt = some diagnostic) :
    diagnostic.LiesIn lines excerpt := by
  rcases ofExcerpt?_cases excerpt with ⟨absent, -⟩ | ⟨offset, message, inside, -, present⟩
  · exact absurd found (by simp [absent])
  · obtain rfl := Option.some.inj (found.symm.trans present)
    exact liesIn_ofOffset spans inside message

/-- What is found in the elements that are kept corresponds to them one by one. -/
theorem forall₂_filter_filterMap {α β : Type} {R : α → β → Prop} {keep : α → Bool}
    {f : α → Option β} {xs : List α} (each : ∀ x ∈ xs,
      (f x = none ∧ keep x = false) ∨ ∃ y, f x = some y ∧ keep x = true ∧ R x y) :
    List.Forall₂ R (xs.filter keep) (xs.filterMap f) := by
  induction xs with
  | nil => exact .nil
  | cons x xs ih =>
      obtain ⟨first, others⟩ := List.forall_mem_cons.1 each
      rcases first with ⟨absent, dropped⟩ | ⟨y, present, kept, related⟩
      · rw [List.filter_cons, List.filterMap_cons, absent, dropped]
        exact ih others
      · rw [List.filter_cons, List.filterMap_cons, present, kept]
        exact .cons related (ih others)

/-- **Every diagnostic lies in its own excerpt.** The excerpts of which anything is left behind a
block, or that do not start with one, have one diagnostic each, in order, and the others have none.
A diagnostic marks a place on a line of its excerpt, and each starts on a later line than the one
before it. -/
theorem diagnostics_lie_in_excerpts (marker document : Text) :
    List.Forall₂ (fun excerpt diagnostic => diagnostic.LiesIn document.lines excerpt)
      ((excerpts marker document).filter fun excerpt => excerpt.remainder? ≠ some [])
      (diagnostics marker document) ∧
    (diagnostics marker document).Pairwise fun first second =>
      first.start.line < second.start.line := by
  have liesIn : ∀ excerpt ∈ excerpts marker document, ∀ diagnostic,
      ofExcerpt? excerpt = some diagnostic → diagnostic.LiesIn document.lines excerpt := by
    intro excerpt mem diagnostic found
    obtain ⟨start, run, spans⟩ := Excerpt.exists_spans_of_mem mem
    exact liesIn_of_ofExcerpt? spans found
  constructor
  · refine forall₂_filter_filterMap fun excerpt mem => ?_
    rcases ofExcerpt?_cases excerpt with ⟨absent, nothing⟩ | ⟨offset, message, -, left, present⟩
    · exact .inl ⟨absent, by simp [nothing]⟩
    · exact .inr ⟨_, present, by simp [left], liesIn excerpt mem _ present⟩
  · have apart := (Excerpt.found_excerptsFrom marker 0 document.lines).pairwise
    rw [diagnostics, List.pairwise_filterMap]
    refine List.Pairwise.imp_of_mem ?_ apart
    intro first second firstMem secondMem before a aFound b bFound
    obtain ⟨line, _, _, lineMem, -, -, start_eq, -⟩ := liesIn first firstMem a aFound
    obtain ⟨line', _, _, lineMem', -, -, start_eq', -⟩ := liesIn second secondMem b bFound
    obtain ⟨segment, segmentMem, segment_eq⟩ := List.mem_map.1 lineMem
    obtain ⟨segment', segmentMem', segment_eq'⟩ := List.mem_map.1 lineMem'
    rw [start_eq, start_eq']
    show (line : Int) < line'
    rw [← segment_eq, ← segment_eq']
    exact before segment segmentMem segment' segmentMem'

end Diagnostic

end MathGrammar
