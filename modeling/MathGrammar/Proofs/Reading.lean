import MathGrammar.Proofs.Spacing
import MathGrammar.Proofs.Success

/-! # Reading given text

A parser *reads* a text as a value before another text when, wherever the two stand, it gives the
value and stops between them; it *refuses* a text when it fails on it in a way that other
alternatives may recover from. Both compose along the combinators, which is how written forms are
shown to be read back. -/

namespace MathGrammar

namespace Parser

variable {α β : Type}

/-- Wherever `text` stands in front of `after`, the parser reads it as `value`. -/
def Reads (p : Parser α) (text : Text) (value : α) (after : Text) : Prop :=
  ∀ offset, p ⟨offset, text ++ after⟩ = .ok value ⟨offset + text.length, after⟩

/-- Wherever `text` stands, the parser fails on it, and another alternative may be tried. -/
def Refuses (p : Parser α) (text : Text) : Prop :=
  ∀ offset, ∃ fault, p ⟨offset, text⟩ = .fail fault ∧ fault.recoverable = true

variable {p q : Parser α} {text after : Text} {value : α}

/-! ### Sequences -/

/-- A value without any reading is given where nothing stands. -/
theorem Reads.pure (value : α) (after : Text) : (pure value : Parser α).Reads [] value after :=
  fun _ => rfl

/-- What two readers read one after the other is read by their sequence. -/
theorem Reads.bind {f : α → Parser β} {more : Text} {result : β}
    (first : p.Reads text value (more ++ after)) (next : (f value).Reads more result after) :
    (p >>= f).Reads (text ++ more) result after := by
  intro offset
  rw [List.append_assoc, bind_apply, first, Outcome.bind_ok, next, List.length_append,
    Nat.add_assoc]

/-- A step that is read up to the end of the text. -/
theorem Reads.bind_end {f : α → Parser β} {more : Text} {result : β}
    (first : p.Reads text value more) (next : (f value).Reads more result []) :
    (p >>= f).Reads (text ++ more) result [] := by
  refine Reads.bind ?_ next
  rwa [List.append_nil]

/-- A last step that consumes nothing. -/
theorem Reads.bind_last {f : α → Parser β} {result : β} (first : p.Reads text value after)
    (next : (f value).Reads [] result after) : (p >>= f).Reads text result after := by
  have both : (p >>= f).Reads (text ++ []) result after := Reads.bind first next
  rwa [List.append_nil] at both

/-- A value that is turned into another is read from the same text. -/
theorem Reads.map (f : α → β) (first : p.Reads text value after) :
    (p.map f).Reads text (f value) after := by
  intro offset
  simp only [Parser.map, first offset, Outcome.bind_ok]

/-- A value that is accepted is read from the same text. -/
theorem Reads.judge {verdict : α → Except Complaint β} {result : β}
    (first : p.Reads text value after) (accepted : verdict value = .ok result) :
    (p.judge verdict).Reads text result after := by
  intro offset
  simp only [Parser.judge, first offset, Outcome.bind_ok, accepted]

/-- A sequence refuses what its first reader refuses. -/
theorem Refuses.bind (f : α → Parser β) (first : p.Refuses text) : (p >>= f).Refuses text := by
  intro offset
  obtain ⟨fault, failed, recoverable⟩ := first offset
  exact ⟨fault, by rw [bind_apply, failed, Outcome.bind_fail], recoverable⟩

/-- A sequence refuses a text behind whose first part its second reader refuses the rest. -/
theorem Reads.bind_refuses {f : α → Parser β} (first : p.Reads text value after)
    (next : (f value).Refuses after) : (p >>= f).Refuses (text ++ after) := by
  intro offset
  obtain ⟨fault, failed, recoverable⟩ := next (offset + text.length)
  exact ⟨fault, by rw [bind_apply, first, Outcome.bind_ok, failed], recoverable⟩

/-- Turning the value into another does not change what is refused. -/
theorem Refuses.map (f : α → β) (first : p.Refuses text) : (p.map f).Refuses text := by
  intro offset
  obtain ⟨fault, failed, recoverable⟩ := first offset
  exact ⟨fault, by simp only [Parser.map, failed, Outcome.bind_fail], recoverable⟩

/-- No verdict is given on what is refused. -/
theorem Refuses.judge (verdict : α → Except Complaint β) (first : p.Refuses text) :
    (p.judge verdict).Refuses text := by
  intro offset
  obtain ⟨fault, failed, recoverable⟩ := first offset
  exact ⟨fault, by simp only [Parser.judge, failed, Outcome.bind_fail], recoverable⟩

/-- A verdict against the value refuses the text, unless the complaint is one that is not
recovered. -/
theorem Reads.judge_refuses {verdict : α → Except Complaint β} {complaint : Complaint}
    (first : p.Reads text value after) (rejected : verdict value = .error complaint)
    (recoverable : complaint.kind.recoverable = true) :
    (p.judge verdict).Refuses (text ++ after) := by
  intro offset
  refine ⟨complaint.located offset, ?_, recoverable⟩
  simp only [Parser.judge, first offset, Outcome.bind_ok, rejected]

/-! ### Choices -/

/-- What the first alternative reads is read so. -/
theorem Reads.orElse (q : Parser α) (first : p.Reads text value after) :
    (p.orElse q).Reads text value after := by
  intro offset
  simp only [Parser.orElse, first offset]

/-- What the second alternative reads is read so where the first one refuses. -/
theorem Refuses.orElse_reads (refused : p.Refuses (text ++ after))
    (second : q.Reads text value after) : (p.orElse q).Reads text value after := by
  intro offset
  obtain ⟨fault, failed, recoverable⟩ := refused offset
  simp only [Parser.orElse, failed, recoverable, if_true, second offset]

/-- What both alternatives refuse is refused. -/
theorem Refuses.orElse (first : p.Refuses text) (second : q.Refuses text) :
    (p.orElse q).Refuses text := by
  intro offset
  obtain ⟨fault, failed, recoverable⟩ := first offset
  simp only [Parser.orElse, failed, recoverable, if_true]
  exact second offset

/-- A complaint that may be made up for refuses every text. -/
theorem refuses_complain {complaint : Complaint} (recoverable : complaint.kind.recoverable = true)
    (text : Text) : (complain complaint : Parser α).Refuses text :=
  fun offset => ⟨complaint.located offset, rfl, recoverable⟩

/-- The first alternative reads the text. -/
theorem Reads.firstOf {ps : List (Parser α)} {complaint : Complaint}
    (first : p.Reads text value after) : (firstOf (p :: ps) complaint).Reads text value after :=
  first.orElse _

/-- The first alternative refuses the text and one of the others reads it. -/
theorem Refuses.firstOf_reads {ps : List (Parser α)} {complaint : Complaint}
    (refused : p.Refuses (text ++ after)) (others : (firstOf ps complaint).Reads text value after) :
    (firstOf (p :: ps) complaint).Reads text value after :=
  refused.orElse_reads others

/-- All alternatives refuse the text. -/
theorem refuses_firstOf {ps : List (Parser α)} {complaint : Complaint}
    (recoverable : complaint.kind.recoverable = true) (all : ∀ p ∈ ps, p.Refuses text) :
    (firstOf ps complaint).Refuses text := by
  induction ps with
  | nil => exact refuses_complain recoverable text
  | cons p ps ih =>
      rw [firstOf_cons]
      exact (all p List.mem_cons_self).orElse (ih fun q mem => all q (List.mem_cons_of_mem p mem))

/-! ### Repetitions -/

/-- Behind a text that is not empty less is left. -/
theorem length_lt_append (ne : text ≠ []) (after : Text) :
    after.length < (text ++ after).length := by
  have positive := List.length_pos_iff.2 ne
  rw [List.length_append]
  omega

/-- A repetition reads nothing where its item refuses. -/
theorem Refuses.many (refused : p.Refuses after) : (many p).Reads [] [] after := by
  intro offset
  obtain ⟨fault, failed, recoverable⟩ := refused offset
  exact many_of_fail failed recoverable

/-- One more item in front of a repetition; it must take up something. -/
theorem Reads.many {more : Text} {values : List α} (first : p.Reads text value (more ++ after))
    (ne : text ≠ []) (others : (many p).Reads more values after) :
    (many p).Reads (text ++ more) (value :: values) after := by
  intro offset
  rw [List.append_assoc, many_of_ok (first offset) (length_lt_append ne _),
    others (offset + text.length), Outcome.bind_ok, List.length_append, Nat.add_assoc]

/-- A repetition that needs an item reads the first one and the others. -/
theorem Reads.many1 {more : Text} {values : List α} {expected : Expectation}
    (first : p.Reads text value (more ++ after))
    (others : (Parser.many p).Reads more values after) :
    (many1 p expected).Reads (text ++ more) (value :: values) after :=
  (first.orElse _).bind (others.bind_last (.pure _ _))

/-- Where a separator is refused, or the item behind it, nothing more is read. -/
theorem Refuses.behindSeparators {separator : Parser β}
    (refused : (separator >>= fun _ => p).Refuses after) :
    (behindSeparators p separator).Reads [] [] after := by
  intro offset
  obtain ⟨fault, failed, recoverable⟩ := refused offset
  exact behindSeparators_of_fail failed recoverable

/-- One more item behind a separator; the two must take up something. -/
theorem Reads.behindSeparators {separator : Parser β} {more : Text} {values : List α}
    (pair : (separator >>= fun _ => p).Reads text value (more ++ after)) (ne : text ≠ [])
    (others : (behindSeparators p separator).Reads more values after) :
    (behindSeparators p separator).Reads (text ++ more) (value :: values) after := by
  intro offset
  rw [List.append_assoc, behindSeparators_of_ok (pair offset) (length_lt_append ne _),
    others (offset + text.length), Outcome.bind_ok, List.length_append, Nat.add_assoc]

/-- A repetition with separators reads the first item and those behind separators. -/
theorem Reads.separated1 {separator : Parser β} {more : Text} {values : List α}
    {expected : Expectation} (first : p.Reads text value (more ++ after))
    (others : (Parser.behindSeparators p separator).Reads more values after) :
    (separated1 p separator expected).Reads (text ++ more) (value :: values) after :=
  (first.orElse _).bind (others.bind_last (.pure _ _))

/-! ### Characters and spacing -/

/-- A sign is read where it stands. -/
theorem reads_literal (characters after : Text) :
    (literal characters).Reads characters () after := by
  intro offset
  simp [literal, Cursor.advance]

/-- A sign refuses a text that it does not start. -/
theorem refuses_literal {characters text : Text} (ne : ¬characters <+: text) :
    (literal characters).Refuses text := by
  intro offset
  refine ⟨⟨⟨.unexpectedToken, .token characters⟩, offset⟩, ?_, rfl⟩
  simp only [literal]
  rw [if_neg (by rwa [List.isPrefixOf_iff_prefix])]

/-- Spacing is skipped where it is the whole run in front of the rest. -/
theorem reads_skip {spacing : Spacing} {text after : Text}
    (run : spacing.runLength (text ++ after) = text.length) :
    (skip spacing).Reads text () after := by
  intro offset
  simp [skip, Cursor.skip, Cursor.advance, run]

/-- A sign is read with the whole run of spacing behind it. -/
theorem reads_token {spacing : Spacing} (characters : Text) {text after : Text}
    (run : spacing.runLength (text ++ after) = text.length) :
    (token characters spacing).Reads (characters ++ text) () after :=
  (reads_literal characters _).bind (reads_skip run)

/-- A sign with spacing refuses a text that the sign does not start. -/
theorem refuses_token {spacing : Spacing} {characters text : Text} (ne : ¬characters <+: text) :
    (token characters spacing).Refuses text :=
  (refuses_literal ne).bind _

end Parser

end MathGrammar
