import MathGrammar.Proofs.Repetition
import MathGrammar.Proofs.Symbol.Yields

/-! # Records as right-hand sides

A record is a symbol, so cases start wherever a record does, and the reader of right-hand sides
never comes to the record that it would try behind the cases. It does what the reader of cases does;
and a record is the whole right-hand side exactly where the cases stop right behind it. -/

namespace MathGrammar

namespace RightHandSide

/-- Cases that are no record alone stay a union. -/
theorem ofCases_of_ne {cases : List (List Symbol)} (ne : ∀ r, cases ≠ [[.record r]]) :
    ofCases cases = .union cases := by
  unfold ofCases
  split
  · exact absurd rfl (ne _)
  · rfl

/-- Only a single case of nothing but a record becomes a record alone. -/
theorem ofCases_eq_record_iff {cases : List (List Symbol)} {r : Record} :
    ofCases cases = .record r ↔ cases = [[.record r]] := by
  constructor
  · intro eq
    unfold ofCases at eq
    split at eq
    · rw [RightHandSide.record.inj eq]
    · exact nomatch eq
  · rintro rfl
    rfl

end RightHandSide

namespace Parser

variable {limit : Nat} {cursor next : Cursor} {r : Record} {cases : List (List Symbol)}

/-! ### Records among symbols -/

/-- A symbol is a record where a record is read, and nowhere else. -/
theorem symbol_eq_record_iff :
    symbol limit cursor = .ok (.record r) next ↔ record limit cursor = .ok r next := by
  constructor
  · intro run
    cases symbolRun_of_symbol run with
    | record read => exact read
  · intro read
    exact orElse_eq_ok.2 (.inl (map_eq_ok.2 ⟨r, read, rfl⟩))

/-- Where no symbol is read, the record that was tried first is refused as well. -/
theorem record_refused_of_symbol (refused : (symbol limit cursor).Refused) :
    (record limit cursor).Refused := by
  rcases (record limit cursor).trichotomy with ⟨r, next, read⟩ | here | final
  · exact absurd (symbol_eq_record_iff.2 read) (refused.ne_ok _ next)
  · exact here
  · have tried : ((record limit).map Symbol.record cursor).isFinal = true := by
      rw [isFinal_map, final]
    refine absurd ?_ refused.not_isFinal
    rw [symbol, firstOf_cons, orElse_of_isFinal tried, tried]

/-! ### Cases -/

/-- A symbol consumes the text. -/
theorem consumes_symbol (limit : Nat) : (symbol limit).Consumes := (advances_symbol limit).consumes

/-- A bar with the case behind it consumes the text. -/
theorem consumes_bar_unionCase (limit : Nat) : (bar >>= fun _ => unionCase limit).Consumes :=
  (advances_bar.bind fun _ => (advances_symbol limit).many1 .grammarSymbol).consumes

/-- There are cases unless no symbol is read. -/
theorem unionCases_refused_iff :
    (unionCases limit cursor).Refused ↔ (symbol limit cursor).Refused :=
  separated1_refused_iff.trans many1_refused_iff

/-- Where a record is read there are cases, or they end for good. -/
theorem unionCases_of_record (read : record limit cursor = .ok r next) :
    (∃ cases after, unionCases limit cursor = .ok cases after) ∨
      (∃ fault, unionCases limit cursor = .fail fault ∧ fault.kind = .missingArgument) ∨
      unionCases limit cursor = .tooDeep := by
  cases run : unionCases limit cursor with
  | ok cases after => exact .inl ⟨cases, after, rfl⟩
  | fail fault =>
      refine .inr (.inl ⟨fault, rfl, Fault.recoverable_eq_false_iff.1 (Bool.eq_false_iff.2 ?_)⟩)
      intro recoverable
      have refused := unionCases_refused_iff.1 ⟨fault, run, recoverable⟩
      exact refused.ne_ok _ next (symbol_eq_record_iff.2 read)
  | tooDeep => exact .inr (.inr rfl)

/-- A case is one symbol where no other symbol is read behind it. -/
theorem unionCase_eq_singleton_iff {s : Symbol} : unionCase limit cursor = .ok [s] next ↔
    symbol limit cursor = .ok s next ∧ (symbol limit next).Refused := by
  rw [unionCase, (consumes_symbol limit).many1_eq_ok_iff]
  constructor
  · rintro ⟨-, items, refused⟩
    cases items with
    | cons first others =>
        cases others with
        | nil => exact ⟨first, refused⟩
  · rintro ⟨read, refused⟩
    exact ⟨List.cons_ne_nil _ _, .cons read (.nil next), refused⟩

/-- A case that starts with a record is the record alone where no symbol stands behind it. -/
theorem unionCase_of_record {e : Cursor} {symbols : List Symbol}
    (read : record limit cursor = .ok r e) (none : ∀ s after, symbol limit e ≠ .ok s after)
    (run : unionCase limit cursor = .ok symbols next) : symbols = [.record r] ∧ next = e := by
  obtain ⟨nonempty, items, -⟩ := (consumes_symbol limit).many1_eq_ok_iff.1 run
  cases items with
  | nil => exact absurd rfl nonempty
  | cons first others =>
      obtain ⟨rfl, rfl⟩ := Outcome.ok.inj (first.symm.trans (symbol_eq_record_iff.2 read))
      cases others with
      | nil => exact ⟨rfl, rfl⟩
      | cons second _ => exact absurd second (none _ _)

/-- Where a case is read there is a symbol. -/
theorem exists_symbol_of_unionCase {symbols : List Symbol}
    (run : unionCase limit cursor = .ok symbols next) :
    ∃ s after, symbol limit cursor = .ok s after := by
  obtain ⟨nonempty, items, -⟩ := (consumes_symbol limit).many1_eq_ok_iff.1 run
  cases items with
  | nil => exact absurd rfl nonempty
  | cons first _ => exact ⟨_, _, first⟩

/-- The cases are a record alone where a record is read with no symbol behind it, and with no bar
there that a symbol stands behind. -/
theorem unionCases_eq_record_iff (run : unionCases limit cursor = .ok cases next) :
    (∃ r, cases = [[.record r]]) ↔ ∃ r e, record limit cursor = .ok r e ∧
      (∀ s after, symbol limit e ≠ .ok s after) ∧
      ((∀ start, bar e ≠ .ok () start) ∨
        ∃ start, bar e = .ok () start ∧ ∀ s after, symbol limit start ≠ .ok s after) := by
  obtain ⟨separated, stopped⟩ := (separated1_eq_ok_iff (consumes_bar_unionCase limit)).1 run
  constructor
  · rintro ⟨r, rfl⟩
    have case : unionCase limit cursor = .ok [.record r] next := by
      cases separated with
      | last read => exact read
      | cons _ _ others => exact nomatch others
    obtain ⟨shown, refused⟩ := unionCase_eq_singleton_iff.1 case
    refine ⟨r, next, symbol_eq_record_iff.1 shown, refused.ne_ok, ?_⟩
    rcases stopped with noBar | ⟨_, start, found, noCase⟩
    · exact .inl (noBar.ne_ok ())
    · exact .inr ⟨start, found, (many1_refused_iff.1 noCase).ne_ok⟩
  · rintro ⟨r, e, read, none, alone⟩
    cases separated with
    | last first =>
        obtain ⟨rfl, rfl⟩ := unionCase_of_record read none first
        exact ⟨r, rfl⟩
    | cons first found others =>
        obtain ⟨rfl, rfl⟩ := unionCase_of_record read none first
        -- Another case would start with a symbol behind the bar.
        obtain ⟨case, between, _, second, -⟩ := separated_iff.1 others
        obtain ⟨s, after, shown⟩ := exists_symbol_of_unionCase second
        rcases alone with noBar | ⟨start, bar_eq, noSymbol⟩
        · exact absurd found (noBar _)
        · obtain ⟨-, rfl⟩ := Outcome.ok.inj (found.symm.trans bar_eq)
          exact absurd shown (noSymbol s after)

/-! ### Right-hand sides -/

/-- Where cases are read the right-hand side is made of them. -/
theorem rightHandSide_of_ok (run : unionCases limit cursor = .ok cases next) :
    rightHandSide limit cursor = .ok (.ofCases cases) next :=
  orElse_eq_ok.2 (.inl (map_eq_ok.2 ⟨cases, run, rfl⟩))

/-- Without cases there is no record either. -/
theorem rightHandSide_of_refused (refused : (unionCases limit cursor).Refused) :
    rightHandSide limit cursor = .fail ⟨⟨.unclassifiable, .rightHandSide⟩, cursor.offset⟩ := by
  obtain ⟨_, noRecord, recordRecoverable⟩ :=
    record_refused_of_symbol (unionCases_refused_iff.1 refused)
  obtain ⟨_, noCases, casesRecoverable⟩ := refused
  rw [rightHandSide, firstOf_cons, orElse_of_fail (map_of_fail noCases) casesRecoverable,
    firstOf_cons, orElse_of_fail (map_of_fail noRecord) recordRecoverable]
  rfl

/-- Where the reader of cases ends for good, nothing else is tried. -/
theorem ending_rightHandSide_of_isFinal (final : (unionCases limit cursor).isFinal = true) :
    (rightHandSide limit cursor).ending = (unionCases limit cursor).ending := by
  have tried : ((unionCases limit).map RightHandSide.ofCases cursor).isFinal = true := by
    rw [isFinal_map, final]
  rw [rightHandSide, firstOf_cons, orElse_of_isFinal tried, ending_map]

/-- Every right-hand side is read as cases. -/
theorem exists_cases_of_rightHandSide {rhs : RightHandSide}
    (run : rightHandSide limit cursor = .ok rhs next) :
    ∃ cases, unionCases limit cursor = .ok cases next ∧ rhs = .ofCases cases := by
  rcases (unionCases limit cursor).trichotomy with ⟨cases, after, read⟩ | refused | final
  · rw [rightHandSide_of_ok read] at run
    obtain ⟨rfl, rfl⟩ := Outcome.ok.inj run
    exact ⟨cases, read, rfl⟩
  · rw [rightHandSide_of_refused refused] at run
    exact nomatch run
  · have ending_eq := ending_rightHandSide_of_isFinal final
    rw [run] at ending_eq
    rw [← Outcome.isFinal_ending, ← ending_eq] at final
    exact nomatch final

/-! ### The main result -/

/-- **A record alone never decides.** Where a record is read there are cases, or the reader of cases
misses an argument, or commands nest too deeply there. So the reader of right-hand sides follows the
reader of cases: cases that are one record are that record, up to the same place, and all others are
a union; where there are no cases it complains where it started; and it ends for good as they do.
What it reads is a record exactly where a record is read with no symbol behind it, and with no bar
there that a symbol stands behind. -/
theorem rightHandSide_follows_cases (limit : Nat) (cursor : Cursor) :
    ((∃ r next, record limit cursor = .ok r next) →
      (∃ cases next, unionCases limit cursor = .ok cases next) ∨
      (∃ fault, unionCases limit cursor = .fail fault ∧ fault.kind = .missingArgument) ∨
      unionCases limit cursor = .tooDeep) ∧
    (∀ r next, unionCases limit cursor = .ok [[.record r]] next →
      rightHandSide limit cursor = .ok (.record r) next) ∧
    (∀ cases next, unionCases limit cursor = .ok cases next → (∀ r, cases ≠ [[.record r]]) →
      rightHandSide limit cursor = .ok (.union cases) next) ∧
    (∀ fault, unionCases limit cursor = .fail fault → fault.kind ≠ .missingArgument →
      rightHandSide limit cursor = .fail ⟨⟨.unclassifiable, .rightHandSide⟩, cursor.offset⟩) ∧
    (∀ fault, unionCases limit cursor = .fail fault → fault.kind = .missingArgument →
      rightHandSide limit cursor = .fail fault) ∧
    (unionCases limit cursor = .tooDeep → rightHandSide limit cursor = .tooDeep) ∧
    (∀ rhs next, rightHandSide limit cursor = .ok rhs next →
      ((∃ r, rhs = .record r) ↔ ∃ r e, record limit cursor = .ok r e ∧
        (∀ s after, symbol limit e ≠ .ok s after) ∧
        ((∀ start, bar e ≠ .ok () start) ∨
          ∃ start, bar e = .ok () start ∧ ∀ s after, symbol limit start ≠ .ok s after))) := by
  refine ⟨?_, fun r next run => rightHandSide_of_ok run, fun cases next run ne => ?_,
    fun fault failed mild => ?_, fun fault failed missing => ?_, fun deep => ?_,
    fun rhs next run => ?_⟩
  · rintro ⟨r, next, read⟩
    exact unionCases_of_record read
  · rw [rightHandSide_of_ok run, RightHandSide.ofCases_of_ne ne]
  · refine rightHandSide_of_refused ⟨fault, failed, ?_⟩
    exact Bool.of_not_eq_false (mt Fault.recoverable_eq_false_iff.1 mild)
  · have final : (unionCases limit cursor).isFinal = true := by
      rw [failed, Outcome.isFinal_of_missing missing]
    rw [← Outcome.ending_eq_fail_iff, ending_rightHandSide_of_isFinal final, failed]
    rfl
  · have final : (unionCases limit cursor).isFinal = true := by
      rw [deep]
      rfl
    rw [← Outcome.ending_eq_tooDeep_iff, ending_rightHandSide_of_isFinal final, deep]
    rfl
  · obtain ⟨cases, read, rfl⟩ := exists_cases_of_rightHandSide run
    simp only [RightHandSide.ofCases_eq_record_iff]
    exact unionCases_eq_record_iff read

/-- A record in front of a line break, and one in front of an escape that misses its argument. -/
theorem rightHandSide_of_record_and_missing :
    let alone : Text := "\\\x7b\\A\\b\\\x7d|\\\\".toList
    let missing : Text := "\\\x7b\\A\\b\\\x7d\\X".toList
    let r : Record := ⟨[(⟨['A'], none⟩, .nonterminal ⟨['b'], none⟩)]⟩
    rightHandSide nestingLimit (.start alone) = .ok (.record r) (.ofOffset alone 8) ∧
      (∃ r e, record nestingLimit (.start alone) = .ok r e ∧
        ∀ s after, symbol nestingLimit e ≠ .ok s after) ∧
      record nestingLimit (.start missing) = .ok r (.ofOffset missing 8) ∧
      ∃ fault : Fault, fault.kind = .missingArgument ∧
        unionCases nestingLimit (.start missing) = .fail fault ∧
        rightHandSide nestingLimit (.start missing) = .fail fault := by
  intro alone missing r
  have runAlone : unionCases nestingLimit (.start alone)
      = .ok [[.record r]] (.ofOffset alone 8) := by
    decide +kernel
  have runMissing : unionCases nestingLimit (.start missing)
      = .fail ⟨⟨.missingArgument, .escapedName nonterminalEscape⟩, 8⟩ := by
    decide +kernel
  have read : record nestingLimit (.start missing) = .ok r (.ofOffset missing 8) := by
    decide +kernel
  obtain ⟨-, records, -, -, -, -, shapes⟩ := rightHandSide_follows_cases nestingLimit (.start alone)
  obtain ⟨-, -, -, -, misses, -⟩ := rightHandSide_follows_cases nestingLimit (.start missing)
  have whole := records r _ runAlone
  obtain ⟨r', e, readAlone, none, -⟩ := (shapes _ _ whole).1 ⟨r, rfl⟩
  exact ⟨whole, ⟨r', e, readAlone, none⟩, read, _, rfl, runMissing, misses _ runMissing rfl⟩

/-- Behind a record commands can nest too deeply, and then there are no cases. -/
theorem unionCases_tooDeep_behind_record :
    let nested : Text := (List.replicate 1000 ['\\', 'c', '\x7b']).flatten ++
      'x' :: List.replicate 1000 '\x7d'
    let text : Text := "\\\x7b\\A\\b\\\x7d".toList ++ nested
    record nestingLimit (.start text)
        = .ok ⟨[(⟨['A'], none⟩, .nonterminal ⟨['b'], none⟩)]⟩ (.ofOffset text 8) ∧
      unionCases nestingLimit (.start text) = .tooDeep := by
  decide +kernel

end Parser

end MathGrammar
