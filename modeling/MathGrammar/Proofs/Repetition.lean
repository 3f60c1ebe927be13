import MathGrammar.Proofs.Endings
import MathGrammar.Proofs.Rounds

/-! # Repetitions

A repetition reads the longest chain of values that there is, one behind the other, and a separator
in front of each but the first when it asks for separators. What happens where the chain breaks off
decides the run: a mismatch that may be recovered from ends it quietly, in front of a separator that
no value follows, and anything else ends it for good. The loop over separators and values is the
loop over pairs of them as long as a pair always takes something up. -/

namespace MathGrammar

variable {α β : Type}

/-! ### Refusals -/

/-- The run failed, and another alternative may be tried. -/
def Outcome.Refused (outcome : Outcome α) : Prop :=
  ∃ fault, outcome = .fail fault ∧ fault.recoverable = true

namespace Outcome.Refused

variable {outcome : Outcome α}

/-- A refused run does not end for good. -/
theorem not_isFinal (refused : outcome.Refused) : ¬outcome.isFinal = true := by
  obtain ⟨fault, rfl, recoverable⟩ := refused
  rw [isFinal, recoverable]
  exact Bool.false_ne_true

/-- A refused run gives no value. -/
theorem ne_ok (refused : outcome.Refused) (value : α) (next : Cursor) :
    outcome ≠ .ok value next := by
  obtain ⟨fault, rfl, -⟩ := refused
  exact nofun

end Outcome.Refused

/-- A run gives a value, is refused, or ends for good. -/
theorem Outcome.trichotomy (outcome : Outcome α) :
    (∃ value next, outcome = .ok value next) ∨ outcome.Refused ∨ outcome.isFinal = true := by
  cases outcome with
  | ok value next => exact .inl ⟨value, next, rfl⟩
  | fail fault =>
      by_cases recoverable : fault.recoverable = true
      · exact .inr (.inl ⟨fault, rfl, recoverable⟩)
      · exact .inr (.inr (by simpa [Outcome.isFinal] using recoverable))
  | tooDeep => exact .inr (.inr rfl)

namespace Parser

variable {item : Parser α} {separator : Parser β} {expected : Expectation}
  {cursor next last : Cursor} {value : α} {values : List α} {ending : Outcome Unit}

/-- A sequence is refused in its first reader, or behind the value of that. -/
theorem bind_refused_iff {f : α → Parser β} : ((item >>= f) cursor).Refused ↔
    (item cursor).Refused ∨ ∃ value next,
      item cursor = .ok value next ∧ (f value next).Refused := by
  rw [bind_apply]
  cases item cursor with
  | ok value next => simp [Outcome.Refused]
  | fail fault => simp [Outcome.Refused]
  | tooDeep => simp [Outcome.Refused]

/-- A reader that complains where it is refused gives its own complaint there, and nothing else. -/
theorem orElse_complain_eq_fail {complaint : Complaint} (refused : (item cursor).Refused) :
    item.orElse (complain complaint) cursor = .fail (complaint.located cursor.offset) := by
  obtain ⟨fault, failed, recoverable⟩ := refused
  exact orElse_of_fail failed recoverable

/-- Such a complaint may be recovered from where the fault of the reader could be. -/
theorem orElse_complain_refused_iff :
    (item.orElse (complain ⟨.emptyMatch, expected⟩) cursor).Refused ↔ (item cursor).Refused := by
  rcases (item cursor).trichotomy with ⟨value, next, read⟩ | refused | final
  · rw [orElse_complain_eq_ok.2 read, read]
  · exact iff_of_true ⟨_, orElse_complain_eq_fail refused, rfl⟩ refused
  · rw [orElse_of_isFinal final]

/-- A repetition that needs an item is refused where there is none, and nowhere else. -/
theorem cons_refused_iff {others : Parser (List α)}
    (never : ∀ place, ¬(others place).Refused) :
    ((do
      let first ← item.orElse (complain ⟨.emptyMatch, expected⟩)
      let more ← others
      return first :: more : Parser (List α)) cursor).Refused ↔ (item cursor).Refused := by
  rw [bind_refused_iff, orElse_complain_refused_iff]
  refine or_iff_left ?_
  rintro ⟨value, next, -, behind⟩
  rcases bind_refused_iff.1 behind with refused | ⟨more, last, -, ⟨fault, failed, -⟩⟩
  · exact never next refused
  · exact nomatch failed

/-! ### Items one behind the other -/

/-- Whatever the parser reads, less of the text is left behind it. -/
def Consumes (p : Parser α) : Prop :=
  ∀ ⦃cursor next : Cursor⦄ ⦃value : α⦄, p cursor = .ok value next →
    next.rest.length < cursor.rest.length

/-- A reader that takes up a character at least consumes the text. -/
theorem Advances.consumes {least : Nat} (advances : item.Advances (least + 1)) : item.Consumes :=
  fun _ _ _ read => (advances.lt read).2

/-- A repetition reads nothing where its item is refused. -/
theorem many_of_refused (refused : (item cursor).Refused) : many item cursor = .ok [] cursor := by
  obtain ⟨fault, failed, recoverable⟩ := refused
  exact many_of_fail failed recoverable

/-- A repetition is never refused: it gives what it has, or it ends for good. -/
theorem not_refused_many (item : Parser α) (cursor : Cursor) : ¬(many item cursor).Refused := by
  rintro ⟨fault, failed, recoverable⟩
  unfold many Chain.toOutcome at failed
  split at failed
  · split at failed
    · exact nomatch failed
    · rename_i final
      obtain rfl := Outcome.fail.inj failed
      exact final recoverable
  · exact nomatch failed
  · exact nomatch failed

/-- A repetition reads item after item, up to the place where one is refused. -/
theorem Consumes.many_eq_ok_iff (consumes : item.Consumes) : many item cursor = .ok values next ↔
    Items item cursor values next ∧ (item next).Refused := by
  constructor
  · intro run
    refine ⟨items_of_many run, ?_⟩
    -- Along the chain: only the item that is tried at its end is refused.
    induction cursor using chain.induct item generalizing values with
    | case1 cursor value between read shorter ih =>
        rw [many_of_ok read shorter, Outcome.bind_eq_ok] at run
        obtain ⟨others, after, run, joined⟩ := run
        obtain ⟨-, rfl⟩ := Outcome.ok.inj joined
        exact ih run
    | case2 cursor value between read longer => exact absurd (consumes read) longer
    | case3 cursor fault failed =>
        by_cases recoverable : fault.recoverable = true
        · have refused : (item cursor).Refused := ⟨fault, failed, recoverable⟩
          rw [many_of_refused refused] at run
          obtain ⟨-, rfl⟩ := Outcome.ok.inj run
          exact refused
        · rw [many, chain, failed] at run
          simp [Chain.toOutcome, recoverable] at run
    | case4 cursor deep =>
        rw [many, chain, deep] at run
        simp [Chain.toOutcome] at run
  · rintro ⟨items, refused⟩
    induction items with
    | nil => exact many_of_refused refused
    | cons first others ih =>
        rw [many_of_ok first (consumes first), ih refused]
        rfl

/-- The items that were read do not change how a repetition ends. -/
theorem Consumes.ending_many_of_items (consumes : item.Consumes)
    (items : Items item cursor values last) :
    (many item cursor).ending = (many item last).ending := by
  induction items with
  | nil => rfl
  | cons first _ ih =>
      rw [ending_many, first]
      simp only [if_pos (consumes first)]
      exact ih

/-- A repetition ends for good behind the items that it reads, where the next one does. -/
theorem exists_items_of_isFinal (final : (many item cursor).isFinal = true) : ∃ values last,
    Items item cursor values last ∧ (item last).ending = (many item cursor).ending := by
  induction cursor using chain.induct item with
  | case1 cursor value next read shorter ih =>
      have ending_eq : (many item cursor).ending = (many item next).ending := by
        rw [ending_many, read]
        exact if_pos shorter
      rw [← Outcome.isFinal_ending, ending_eq, Outcome.isFinal_ending] at final
      obtain ⟨values, last, items, last_eq⟩ := ih final
      exact ⟨value :: values, last, .cons read items, last_eq.trans ending_eq.symm⟩
  | case2 cursor value next read longer =>
      rw [← Outcome.isFinal_ending, ending_many, read] at final
      simp [longer, Outcome.isFinal] at final
  | case3 cursor fault failed =>
      have stopped : (item cursor).isFinal = true := by
        rw [failed, Outcome.isFinal, Bool.not_eq_true', Bool.eq_false_iff]
        intro recoverable
        rw [many_of_refused ⟨fault, failed, recoverable⟩] at final
        exact absurd final Bool.false_ne_true
      exact ⟨[], cursor, .nil cursor, (ending_many_of_isFinal stopped).symm⟩
  | case4 cursor deep =>
      have stopped : (item cursor).isFinal = true := by
        rw [deep]
        rfl
      exact ⟨[], cursor, .nil cursor, (ending_many_of_isFinal stopped).symm⟩

/-- A repetition ends for good exactly as its item does behind the items that were read. -/
theorem Consumes.ending_many_eq_iff (consumes : item.Consumes) (final : ending.isFinal = true) :
    (many item cursor).ending = ending ↔
      ∃ values last, Items item cursor values last ∧ (item last).ending = ending := by
  constructor
  · rintro rfl
    rw [Outcome.isFinal_ending] at final
    obtain ⟨values, last, items, ending_eq⟩ := exists_items_of_isFinal final
    exact ⟨values, last, items, ending_eq⟩
  · rintro ⟨values, last, items, rfl⟩
    rw [Outcome.isFinal_ending] at final
    rw [consumes.ending_many_of_items items, ending_many_of_isFinal final]

/-! ### Separators in between -/

/-- The values are read by the item one after another, from a place to a later one, and a separator
is read between each two of them. -/
inductive Separated (item : Parser α) (separator : Parser β) : Cursor → List α → Cursor → Prop where
  /-- One value alone. -/
  | last {cursor next : Cursor} {value : α} (read : item cursor = .ok value next) :
    Separated item separator cursor [value] next
  /-- A value, a separator behind it, and the other values. -/
  | cons {cursor after start next : Cursor} {value : α} {mark : β} {values : List α}
    (read : item cursor = .ok value after) (separated : separator after = .ok mark start)
    (others : Separated item separator start values next) :
    Separated item separator cursor (value :: values) next

/-- The chain of separated values breaks off with this ending: so ends the run of the item at its
start, the run of the separator behind some of its values, or that of the item behind the
separator. -/
inductive BreaksOff (item : Parser α) (separator : Parser β) (cursor : Cursor)
    (ending : Outcome Unit) : Prop where
  /-- There is no value at all. -/
  | start (stopped : (item cursor).ending = ending)
  /-- There is no separator behind the values. -/
  | separator {values : List α} {last : Cursor}
    (before : Separated item separator cursor values last)
    (stopped : (separator last).ending = ending)
  /-- There is a separator behind the values, and no further value. -/
  | item {values : List α} {last start : Cursor} {mark : β}
    (before : Separated item separator cursor values last)
    (separated : separator last = .ok mark start) (stopped : (item start).ending = ending)

/-- Behind the first value the others are read in pairs with their separators. -/
theorem separated_iff : Separated item separator cursor values last ↔
    ∃ first between others, item cursor = .ok first between ∧
      Items (separator >>= fun _ => item) between others last ∧ values = first :: others := by
  constructor
  · intro separated
    induction separated with
    | last read => exact ⟨_, _, [], read, .nil _, rfl⟩
    | @cons _ after _ _ _ _ _ read separated _ ih =>
        obtain ⟨second, between, others, second_eq, items, rfl⟩ := ih
        have pair : (separator >>= fun _ => item) after = .ok second between :=
          bind_eq_ok.2 ⟨_, _, separated, second_eq⟩
        exact ⟨_, _, second :: others, read, .cons pair items, rfl⟩
  · rintro ⟨first, between, others, read, items, rfl⟩
    induction items generalizing cursor first with
    | nil => exact .last read
    | cons pair _ ih =>
        obtain ⟨mark, start, separated, second_eq⟩ := bind_eq_ok.1 pair
        exact .cons read separated (ih _ second_eq)

/-- What stands behind separators is never refused: there is what there is, or the run ends for
good. -/
theorem not_refused_behindSeparators (item : Parser α) (separator : Parser β) (cursor : Cursor) :
    ¬(behindSeparators item separator cursor).Refused := by
  rintro ⟨fault, failed, recoverable⟩
  -- Along the pairs: a fault comes from the last one, and is not one to recover from.
  induction cursor using behindSeparators.induct item separator with
  | case1 cursor value next read shorter ih =>
      rw [behindSeparators_of_ok read shorter] at failed
      cases others : behindSeparators item separator next with
      | ok values last => simp [others] at failed
      | fail other =>
          rw [others, Outcome.bind_fail] at failed
          exact ih (others.trans failed)
      | tooDeep => simp [others] at failed
  | case2 cursor value next read longer =>
      rw [behindSeparators, read] at failed
      simp [longer] at failed
  | case3 cursor other unread mild =>
      rw [behindSeparators_of_fail unread mild] at failed
      exact nomatch failed
  | case4 cursor other unread final =>
      rw [behindSeparators, unread] at failed
      simp only [if_neg final] at failed
      obtain rfl := Outcome.fail.inj failed
      exact final recoverable
  | case5 cursor deep =>
      rw [behindSeparators, deep] at failed
      exact nomatch failed

/-- The loop over separators and values is that over pairs of them, when a pair takes something
up. -/
theorem Consumes.behindSeparators_eq_many (consumes : (separator >>= fun _ => item).Consumes) :
    behindSeparators item separator = many (separator >>= fun _ => item) := by
  funext cursor
  induction cursor using behindSeparators.induct item separator with
  | case1 cursor value next read shorter ih =>
      rw [behindSeparators_of_ok read shorter, many_of_ok read shorter, ih]
  | case2 cursor value next read longer => exact absurd (consumes read) longer
  | case3 cursor fault failed recoverable =>
      rw [behindSeparators_of_fail failed recoverable, many_of_fail failed recoverable]
  | case4 cursor fault failed final =>
      rw [behindSeparators, many, chain, failed]
      simp [Chain.toOutcome, final]
  | case5 cursor deep =>
      rw [behindSeparators, many, chain, deep]
      rfl

/-- Behind its first value a repetition goes on behind separators. -/
theorem separated1_of_ok (read : item cursor = .ok value next) :
    separated1 item separator expected cursor
      = (behindSeparators item separator next).bind fun values after =>
          .ok (value :: values) after := by
  unfold separated1
  rw [bind_apply, orElse_complain_eq_ok.2 read, Outcome.bind_ok]
  rfl

/-- Where its first item is refused, a repetition complains that there is none. -/
theorem separated1_of_refused (refused : (item cursor).Refused) :
    separated1 item separator expected cursor
      = .fail ⟨⟨.emptyMatch, expected⟩, cursor.offset⟩ :=
  bind_of_fail (orElse_complain_eq_fail refused)

/-- Where its first item ends for good, so does a repetition. -/
theorem ending_separated1_of_isFinal (final : (item cursor).isFinal = true) :
    (separated1 item separator expected cursor).ending = (item cursor).ending := by
  unfold separated1
  rw [bind_apply, orElse_of_isFinal final, Outcome.ending_bind final]

/-- Behind its first value a repetition ends as the loop behind it does. -/
theorem ending_separated1_of_ok (read : item cursor = .ok value next) :
    (separated1 item separator expected cursor).ending
      = (behindSeparators item separator next).ending := by
  rw [separated1_of_ok read]
  exact ending_map (value :: ·) (behindSeparators item separator) next

/-- A repetition with separators is refused where its first item is, and nowhere else. -/
theorem separated1_refused_iff :
    (separated1 item separator expected cursor).Refused ↔ (item cursor).Refused :=
  cons_refused_iff (not_refused_behindSeparators item separator)

/-- Separated values are read as far as they go: up to a separator that is refused, or that no value
follows. -/
theorem separated1_eq_ok_iff (consumes : (separator >>= fun _ => item).Consumes) :
    separated1 item separator expected cursor = .ok values next ↔
      Separated item separator cursor values next ∧ ((separator next).Refused ∨
        ∃ mark start, separator next = .ok mark start ∧ (item start).Refused) := by
  rw [separated_iff, ← bind_refused_iff]
  constructor
  · intro run
    obtain ⟨first, between, others, read, -, rfl⟩ := items_of_separated1 run
    rw [separated1_of_ok read, consumes.behindSeparators_eq_many, Outcome.bind_eq_ok] at run
    obtain ⟨_, _, run, joined⟩ := run
    obtain ⟨others_eq, rfl⟩ := Outcome.ok.inj joined
    obtain ⟨items, refused⟩ := consumes.many_eq_ok_iff.1 run
    exact ⟨⟨first, between, _, read, items, others_eq.symm⟩, refused⟩
  · rintro ⟨⟨first, between, others, read, items, rfl⟩, refused⟩
    rw [separated1_of_ok read, consumes.behindSeparators_eq_many,
      consumes.many_eq_ok_iff.2 ⟨items, refused⟩, Outcome.bind_ok]

/-- A repetition ends for good as its chain breaks off. -/
theorem ending_separated1_eq_iff (consumes : (separator >>= fun _ => item).Consumes)
    (final : ending.isFinal = true) :
    (separated1 item separator expected cursor).ending = ending ↔
      BreaksOff item separator cursor ending := by
  constructor
  · rintro rfl
    rw [Outcome.isFinal_ending] at final
    rcases (item cursor).trichotomy with ⟨value, next, read⟩ | refused | stopped
    · rw [← Outcome.isFinal_ending, ending_separated1_of_ok read,
        consumes.behindSeparators_eq_many] at final
      rw [ending_separated1_of_ok read, consumes.behindSeparators_eq_many]
      obtain ⟨others, last, items, ending_eq⟩ :=
        (consumes.ending_many_eq_iff final).1 rfl
      have before : Separated item separator cursor (value :: others) last :=
        separated_iff.2 ⟨value, next, others, read, items, rfl⟩
      rw [← ending_eq, Outcome.isFinal_ending] at final
      rw [← ending_eq]
      rcases isFinal_bind final with ⟨-, stopped⟩ | ⟨mark, start, separated, run⟩
      · exact .separator before stopped.symm
      · exact .item before separated (by rw [run])
    · exact absurd final (separated1_refused_iff.2 refused).not_isFinal
    · exact .start (ending_separated1_of_isFinal stopped).symm
  · rintro (stopped | ⟨before, stopped⟩ | ⟨before, separated, stopped⟩)
    · rw [← stopped, Outcome.isFinal_ending] at final
      rw [ending_separated1_of_isFinal final, stopped]
    · obtain ⟨first, between, others, read, items, -⟩ := separated_iff.1 before
      rw [ending_separated1_of_ok read, consumes.behindSeparators_eq_many,
        consumes.ending_many_eq_iff final]
      rw [← stopped, Outcome.isFinal_ending] at final
      exact ⟨others, _, items, (Outcome.ending_bind final _).trans stopped⟩
    · obtain ⟨first, between, others, read, items, -⟩ := separated_iff.1 before
      rw [ending_separated1_of_ok read, consumes.behindSeparators_eq_many,
        consumes.ending_many_eq_iff final]
      exact ⟨others, _, items, by rw [bind_apply, separated, Outcome.bind_ok, stopped]⟩

/-- A repetition fails for good, or because there is not one item. -/
theorem separated1_eq_fail {fault : Fault}
    (failed : separated1 item separator expected cursor = .fail fault) :
    fault.kind = .missingArgument ∨ fault = ⟨⟨.emptyMatch, expected⟩, cursor.offset⟩ := by
  by_cases recoverable : fault.recoverable = true
  · have refused := separated1_refused_iff.1 ⟨fault, failed, recoverable⟩
    rw [separated1_of_refused refused] at failed
    exact .inr (Outcome.fail.inj failed).symm
  · exact .inl (Fault.recoverable_eq_false_iff.1 (Bool.eq_false_iff.2 recoverable))

/-! ### No separators -/

/-- Where a separator reads nothing, the repetition is that of the item alone, if only the item
takes something up: otherwise the loop over separators leaves the item that the other one keeps. -/
theorem Consumes.separated1_eq_many1 (consumes : item.Consumes)
    (blank : ∀ place, ∃ mark, separator place = .ok mark place) :
    separated1 item separator expected = many1 item expected := by
  have pair_eq : (separator >>= fun _ => item) = item := by
    funext place
    obtain ⟨mark, read⟩ := blank place
    rw [bind_apply, read, Outcome.bind_ok]
  have pairs : (separator >>= fun _ => item).Consumes := by rwa [pair_eq]
  unfold separated1 many1
  rw [pairs.behindSeparators_eq_many, pair_eq]

/-- A repetition of one item or more is refused where the first one is, and nowhere else. -/
theorem many1_refused_iff : (many1 item expected cursor).Refused ↔ (item cursor).Refused :=
  cons_refused_iff (not_refused_many item)

/-- One item or more are read up to the place where one is refused. -/
theorem Consumes.many1_eq_ok_iff (consumes : item.Consumes) :
    many1 item expected cursor = .ok values next ↔
      values ≠ [] ∧ Items item cursor values next ∧ (item next).Refused := by
  constructor
  · intro run
    obtain ⟨first, between, read, run⟩ := bind_eq_ok.1 run
    obtain ⟨others, _, more, joined⟩ := bind_eq_ok.1 run
    obtain ⟨rfl, rfl⟩ := pure_eq_ok.1 joined
    obtain ⟨items, refused⟩ := consumes.many_eq_ok_iff.1 more
    exact ⟨List.cons_ne_nil _ _, .cons (orElse_complain_eq_ok.1 read) items, refused⟩
  · rintro ⟨nonempty, items, refused⟩
    cases items with
    | nil => exact absurd rfl nonempty
    | cons read others =>
        refine bind_eq_ok.2 ⟨_, _, orElse_complain_eq_ok.2 read, ?_⟩
        exact bind_eq_ok.2 ⟨_, _, consumes.many_eq_ok_iff.2 ⟨others, refused⟩, rfl⟩

/-! ### The main result -/

/-- **Repetitions read the longest chain.** When a separator with an item behind it always takes
something up, a repetition with separators gives exactly the values of the chain that goes on until
a separator is refused, or an item behind one, and it stops in front of that separator. It fails for
want of an item exactly where the first one is refused, and for good exactly as the chain breaks off
for good; there is no other fault. With a separator that reads nothing it is the repetition of the
item alone, which gives the items up to the first that is refused. -/
theorem repetition_reads_maximal_chain (item : Parser α) (separator : Parser β)
    (expected : Expectation) (cursor : Cursor) :
    ((separator >>= fun _ => item).Consumes →
      (∀ values next, separated1 item separator expected cursor = .ok values next ↔
        Separated item separator cursor values next ∧ ((separator next).Refused ∨
          ∃ mark start, separator next = .ok mark start ∧ (item start).Refused)) ∧
      (separated1 item separator expected cursor
          = .fail ⟨⟨.emptyMatch, expected⟩, cursor.offset⟩ ↔ (item cursor).Refused) ∧
      (∀ fault : Fault, fault.kind = .missingArgument →
        (separated1 item separator expected cursor = .fail fault ↔
          BreaksOff item separator cursor (.fail fault))) ∧
      (separated1 item separator expected cursor = .tooDeep ↔
        BreaksOff item separator cursor .tooDeep) ∧
      (∀ fault : Fault, separated1 item separator expected cursor = .fail fault →
        fault.kind = .missingArgument ∨ fault = ⟨⟨.emptyMatch, expected⟩, cursor.offset⟩)) ∧
    (item.Consumes → ∀ blank : Parser β, (∀ place, ∃ mark, blank place = .ok mark place) →
      separated1 item blank expected cursor = many1 item expected cursor ∧
      ∀ values next, many1 item expected cursor = .ok values next ↔
        values ≠ [] ∧ Items item cursor values next ∧ (item next).Refused) := by
  constructor
  · intro consumes
    refine ⟨fun values next => separated1_eq_ok_iff consumes, ?_, fun fault missing => ?_, ?_,
      fun fault failed => separated1_eq_fail failed⟩
    · exact ⟨fun failed => separated1_refused_iff.1 ⟨_, failed, rfl⟩, separated1_of_refused⟩
    · rw [← ending_separated1_eq_iff consumes (Outcome.isFinal_of_missing missing),
        Outcome.ending_eq_fail_iff]
    · rw [← ending_separated1_eq_iff consumes rfl, Outcome.ending_eq_tooDeep_iff]
  · intro consumes blank reads
    exact ⟨by rw [consumes.separated1_eq_many1 reads],
      fun values next => consumes.many1_eq_ok_iff⟩

/-- Symbols with commas in between: the comma behind the last symbol is left, and the escape behind
a comma misses its argument. Without the commas there are symbols in a row. -/
theorem commas_between_symbols :
    let item := symbol nestingLimit
    let comma := literal [',']
    let left : Text := "\\a,\\b,|".toList
    let missing : Text := "\\a,\\X".toList
    (comma >>= fun _ => item).Consumes ∧ item.Consumes ∧
      (∃ values,
        separated1 item comma .grammarSymbol (.start left) = .ok values (.ofOffset left 5) ∧
        Separated item comma (.start left) values (.ofOffset left 5) ∧
        comma (.ofOffset left 5) = .ok () (.ofOffset left 6) ∧ (item (.ofOffset left 6)).Refused) ∧
      (∃ fault : Fault, fault.kind = .missingArgument ∧
        BreaksOff item comma (.start missing) (.fail fault)) ∧
      ∀ cursor,
        separated1 item (pure ()) .grammarSymbol cursor = many1 item .grammarSymbol cursor := by
  intro item comma left missing
  have consumes : (comma >>= fun _ => item).Consumes :=
    ((advances_literal [',']).bind fun _ => advances_symbol nestingLimit).consumes
  have alone : item.Consumes := (advances_symbol nestingLimit).consumes
  refine ⟨consumes, alone, ?_, ?_, fun cursor => ?_⟩
  · have run : separated1 item comma .grammarSymbol (.start left)
        = .ok [.nonterminal ⟨['a'], none⟩, .nonterminal ⟨['b'], none⟩] (.ofOffset left 5) := by
      decide +kernel
    obtain ⟨reads, -⟩ :=
      (repetition_reads_maximal_chain item comma .grammarSymbol (.start left)).1 consumes
    obtain ⟨separated, none | ⟨mark, start, found, refused⟩⟩ := (reads _ _).1 run
    · exact absurd rfl (none.ne_ok () (.ofOffset left 6))
    · obtain ⟨-, rfl⟩ := Outcome.ok.inj found
      exact ⟨_, run, separated, rfl, refused⟩
  · have failed : separated1 item comma .grammarSymbol (.start missing)
        = .fail ⟨⟨.missingArgument, .escapedName nonterminalEscape⟩, 3⟩ := by
      decide +kernel
    obtain ⟨-, -, breaks, -⟩ :=
      (repetition_reads_maximal_chain item comma .grammarSymbol (.start missing)).1 consumes
    exact ⟨_, rfl, (breaks _ rfl).1 failed⟩
  · have both := repetition_reads_maximal_chain item (pure () : Parser Unit) .grammarSymbol cursor
    exact (both.2 alone (pure ()) fun place => ⟨(), rfl⟩).1

end Parser

end MathGrammar
