import MathGrammar.Proofs.Document.Location

/-! # Segments one by one

Halving is a shortcut. Going through the segments one by one and taking the last that starts at the
offset or before it gives the same place, whatever the offset, as long as the segments are in
order. -/

namespace MathGrammar

namespace Segment

variable {segments : List Segment} {position : Int}

/-- The last of the segments that start at `position` or before it. -/
def lastUpTo? (segments : List Segment) (position : Int) : Option Segment :=
  (segments.filter fun s => s.offset ≤ position).getLast?

/-- When every segment starts behind the position there is none up to it. -/
theorem lastUpTo?_eq_none (beyond : ∀ s ∈ segments, position < s.offset) :
    lastUpTo? segments position = none := by
  have dropped : (segments.filter fun s => s.offset ≤ position) = [] :=
    List.filter_eq_nil_iff.2 fun s mem => by simpa using beyond s mem
  rw [lastUpTo?, dropped, List.getLast?_nil]

/-- The last segment up to a position is the one behind which all start further on. -/
theorem lastUpTo?_append {before after : List Segment} {holder : Segment}
    (upTo : ∀ s ∈ before ++ [holder], s.offset ≤ position)
    (beyond : ∀ s ∈ after, position < s.offset) :
    lastUpTo? (before ++ holder :: after) position = some holder := by
  have kept : ((before ++ [holder]).filter fun s => s.offset ≤ position) = before ++ [holder] :=
    List.filter_eq_self.2 fun s mem => by simpa using upTo s mem
  have dropped : (after.filter fun s => s.offset ≤ position) = [] :=
    List.filter_eq_nil_iff.2 fun s mem => by simpa using beyond s mem
  have split : before ++ holder :: after = (before ++ [holder]) ++ after := by simp
  rw [lastUpTo?, split, List.filter_append, kept, dropped, List.append_nil, List.getLast?_concat]

/-- In front of all segments halving ends at the first. -/
theorem index_eq_zero (beyond : ∀ s ∈ segments, position < s.offset) :
    index segments position = 0 := by
  have upTo : ∀ x ∈ ([] : List Int), x ≤ position := fun x mem => absurd mem List.not_mem_nil
  have bound : upperBound ([] ++ segments.map Segment.offset) position 0 segments.length = 0 :=
    upperBound_append upTo (List.forall_mem_map.2 beyond) 0 segments.length (Nat.le_refl 0)
      (Nat.zero_le _) (by simp)
  rw [index, ← List.nil_append (segments.map Segment.offset), bound]

end Segment

namespace Excerpt

variable {excerpt : Excerpt}

/-- Halving finds the segment that is found one by one. -/
theorem locate_eq_lastUpTo (sorted : excerpt.segments.Pairwise fun s t => s.offset ≤ t.offset)
    (position : Int) : excerpt.locate position
      = ((Segment.lastUpTo? excerpt.segments position).getD
          (excerpt.segments.head excerpt.nonempty)).place position := by
  obtain ⟨low, high, segments_eq, upTo, beyond⟩ :=
    Segment.exists_split_of_sorted sorted position
  rcases List.eq_nil_or_concat low with rfl | ⟨before, holder, rfl⟩
  · -- No segment starts so early, and the first one is taken.
    rw [List.nil_append] at segments_eq
    rw [← segments_eq] at beyond
    have located := excerpt.locate?_segments position
    rw [Segment.locate?, Segment.index_eq_zero beyond, ← List.head?_eq_getElem?,
      List.head?_eq_some_head excerpt.nonempty] at located
    rw [Segment.lastUpTo?_eq_none beyond]
    exact (Option.some.inj located).symm
  · rw [List.concat_eq_append] at upTo segments_eq
    rw [List.append_assoc, List.singleton_append] at segments_eq
    have found : Segment.lastUpTo? excerpt.segments position = some holder := by
      rw [segments_eq]
      exact Segment.lastUpTo?_append upTo beyond
    rw [locate_eq_place segments_eq upTo beyond, found, Option.getD_some]

/-- On lines that do not go down, neither do the lines of later offsets. -/
theorem line_locate_mono (sorted : excerpt.segments.Pairwise fun s t => s.offset ≤ t.offset)
    (lines : excerpt.segments.Pairwise fun s t => s.line ≤ t.line) {p q : Int} (le : p ≤ q) :
    (excerpt.locate p).line ≤ (excerpt.locate q).line := by
  have p_lt := Segment.index_lt excerpt.segments p excerpt.nonempty
  have q_lt := Segment.index_lt excerpt.segments q excerpt.nonempty
  show (excerpt.segments[Segment.index excerpt.segments p]).line
    ≤ (excerpt.segments[Segment.index excerpt.segments q]).line
  rcases Nat.lt_or_eq_of_le (Segment.index_mono sorted le) with less | same
  · exact List.pairwise_iff_getElem.1 lines _ _ p_lt q_lt less
  · simp only [same, Int.le_refl]

/-- **Halving is a linear search.** With segments in the order of their offsets, of which some may
be equal, every offset has its place on the line of the last segment that starts at it or before it,
or of the first segment if none does, and its column counts from the start of that segment. When the
lines do not go down from segment to segment, neither do they from offset to offset. -/
theorem locate_is_linear_search (excerpt : Excerpt)
    (sorted : excerpt.segments.Pairwise fun s t => s.offset ≤ t.offset) :
    (∀ position : Int,
      let holder := (Segment.lastUpTo? excerpt.segments position).getD
        (excerpt.segments.head excerpt.nonempty)
      excerpt.locate position = ⟨holder.line, position - holder.offset⟩) ∧
    (excerpt.segments.Pairwise (fun s t => s.line ≤ t.line) → ∀ p q : Int, p ≤ q →
      (excerpt.locate p).line ≤ (excerpt.locate q).line) :=
  ⟨fun position => locate_eq_lastUpTo sorted position,
    fun lines _ _ le => line_locate_mono sorted lines le⟩

/-- Two segments with one offset: of these the second counts. The offsets in front of the first
segment and beyond the content have places as well. -/
theorem locate_is_linear_search_of_empty_line :
    let excerpt : Excerpt :=
      ⟨"  ab  cde".toList, [⟨2, 1⟩, ⟨3, 4⟩, ⟨4, 4⟩, ⟨6, 8⟩], List.cons_ne_nil _ _⟩
    (excerpt.segments.Pairwise fun s t => s.offset ≤ t.offset) ∧
      (excerpt.segments.Pairwise fun s t => s.line ≤ t.line) ∧
      excerpt.locate (-3) = ⟨2, -4⟩ ∧ excerpt.locate 4 = ⟨4, 0⟩ ∧ excerpt.locate 20 = ⟨6, 12⟩ ∧
      (excerpt.locate 3).line ≤ (excerpt.locate 4).line := by
  intro excerpt
  have sorted : excerpt.segments.Pairwise fun s t => s.offset ≤ t.offset := by decide
  have lines : excerpt.segments.Pairwise fun s t => s.line ≤ t.line := by decide
  obtain ⟨places, later⟩ := locate_is_linear_search excerpt sorted
  exact ⟨sorted, lines, places (-3), places 4, places 20, later lines 3 4 (by decide)⟩

end Excerpt

end MathGrammar
