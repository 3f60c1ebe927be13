import MathGrammar.Proofs.Calls.Recorded
import MathGrammar.Proofs.Endings

/-! # Calls

What becomes of a call that ends for good. A *trace* of a reader is the reader with its calls
recorded. It carries the two facts that tie the calls to the run, and it is put together along the
combinators, so that no trial, no repetition and no handler in between can be passed over. -/

namespace MathGrammar

variable {α β : Type}

/-- A reader with its calls recorded, and what ties the calls to the runs. -/
structure Trace (p : Parser α) where
  /-- The runs, with the calls that they make. -/
  recorded : Cursor → Recorded α
  /-- Recording the calls does not change the runs. -/
  outcome_eq : ∀ cursor, (recorded cursor).outcome = p cursor
  /-- A call that ends for good ends the run in the same way. -/
  decides : ∀ {cursor : Cursor} {call : Call}, call ∈ (recorded cursor).calls →
    call.ending.isFinal = true → (p cursor).ending = call.ending
  /-- A run that ends for good does so because of a call in which that arose. -/
  arises : ∀ {cursor : Cursor}, (p cursor).isFinal = true →
    ∃ call ∈ (recorded cursor).calls, call.raises = true ∧ call.ending = (p cursor).ending

namespace Trace

variable {p q : Parser α}

/-- The calls of the run from a place, in their order. -/
def calls (trace : Trace p) (cursor : Cursor) : List Call := (trace.recorded cursor).calls

/-- The run ends for good when one of its calls does. -/
theorem isFinal_of_mem (trace : Trace p) {cursor : Cursor} {call : Call}
    (mem : call ∈ trace.calls cursor) (final : call.ending.isFinal = true) :
    (p cursor).isFinal = true := by
  rw [← Outcome.isFinal_ending, trace.decides mem final]
  exact final

/-- A run that ends as the reader's own run does has the reader's reason for it. -/
theorem exists_call (trace : Trace p) {cursor : Cursor} {outcome : Outcome β} {calls : List Call}
    (final : (p cursor).isFinal = true) (ending_eq : outcome.ending = (p cursor).ending)
    (among : ∀ call ∈ trace.calls cursor, call ∈ calls) :
    ∃ call ∈ calls, call.raises = true ∧ call.ending = outcome.ending := by
  obtain ⟨call, mem, raises, call_eq⟩ := trace.arises final
  exact ⟨call, among call mem, raises, call_eq.trans ending_eq.symm⟩

/-- A reader that calls no other. -/
def leaf (harmless : p.Harmless) : Trace p where
  recorded cursor := .silent (p cursor)
  outcome_eq _ := rfl
  decides mem := absurd mem List.not_mem_nil
  arises {cursor} final := by
    rw [harmless cursor] at final
    exact absurd final nofun

/-- A value without any reading. -/
def pure (value : α) : Trace (pure value : Parser α) := leaf (Parser.harmless_pure value)

/-- A complaint that may be made up for. -/
def complain (complaint : Complaint) (mild : complaint.kind.recoverable = true) :
    Trace (Parser.complain complaint : Parser α) := leaf (Parser.harmless_complain mild)

/-- The first reader, and behind its value the next one. -/
def bind {f : α → Parser β} (first : Trace p) (next : ∀ value, Trace (f value)) :
    Trace (p >>= f) where
  recorded cursor := (first.recorded cursor).bind fun value between => (next value).recorded between
  outcome_eq cursor := by
    rw [Recorded.outcome_bind, first.outcome_eq, Parser.bind_apply]
    simp only [(next _).outcome_eq]
  decides {cursor call} mem final := by
    rw [Parser.bind_apply]
    rcases Recorded.mem_calls_bind.1 mem with mem | ⟨value, between, run, mem⟩
    · rw [Outcome.ending_bind (first.isFinal_of_mem mem final)]
      exact first.decides mem final
    · rw [first.outcome_eq] at run
      rw [run]
      exact (next value).decides mem final
  arises {cursor} final := by
    rw [Parser.bind_apply] at final ⊢
    by_cases stopped : (p cursor).isFinal = true
    · exact first.exists_call stopped (Outcome.ending_bind stopped _) fun call mem =>
        Recorded.mem_calls_bind.2 (.inl mem)
    · -- The first reader gave a value, as nothing goes on from its faults.
      cases run : p cursor with
      | ok value between =>
          rw [run] at final
          exact (next value).exists_call final rfl fun call mem =>
            Recorded.mem_calls_bind.2 (.inr ⟨value, between, (first.outcome_eq _).trans run, mem⟩)
      | fail fault =>
          rw [run] at final stopped
          exact absurd final stopped
      | tooDeep =>
          rw [run] at stopped
          exact absurd rfl stopped

/-- The first reader, and the second where the first may be made up for. -/
def orElse (first : Trace p) (second : Trace q) : Trace (p.orElse q) where
  recorded cursor := (first.recorded cursor).orElse (second.recorded cursor)
  outcome_eq cursor := by
    unfold Recorded.orElse Parser.orElse
    rw [first.outcome_eq, second.outcome_eq]
    cases p cursor with
    | ok value next => rfl
    | fail fault =>
        by_cases recoverable : fault.recoverable = true
        · simp only [if_pos recoverable]
        · simp only [if_neg recoverable]
    | tooDeep => rfl
  decides {cursor call} mem final := by
    rcases Recorded.mem_calls_orElse.1 mem with mem | ⟨⟨fault, failed, recoverable⟩, mem⟩
    · rw [Parser.orElse_of_isFinal (first.isFinal_of_mem mem final)]
      exact first.decides mem final
    · rw [first.outcome_eq] at failed
      rw [Parser.orElse_of_fail failed recoverable]
      exact second.decides mem final
  arises {cursor} final := by
    by_cases stopped : (p cursor).isFinal = true
    · rw [Parser.orElse_of_isFinal stopped]
      exact first.exists_call stopped rfl fun call mem => Recorded.mem_calls_orElse.2 (.inl mem)
    · -- Only the second reader is left to have ended for good.
      cases run : p cursor with
      | ok value between => simp [Parser.orElse, run, Outcome.isFinal] at final
      | fail fault =>
          have recoverable : fault.recoverable = true := by
            simpa [run, Outcome.isFinal] using stopped
          rw [Parser.orElse_of_fail run recoverable] at final ⊢
          exact second.exists_call final rfl fun call mem => Recorded.mem_calls_orElse.2
            (.inr ⟨⟨fault, (first.outcome_eq _).trans run, recoverable⟩, mem⟩)
      | tooDeep =>
          rw [run] at stopped
          exact absurd rfl stopped

/-! ### Repetitions -/

/-- The chain of the items, and the calls of all of them, from one run. -/
theorem snd_chain (item : Trace p) (cursor : Cursor) :
    (Recorded.chain item.recorded cursor).2 = Parser.chain p cursor := by
  induction cursor using Parser.chain.induct p with
  | case1 cursor value next read shorter ih =>
      rw [Recorded.chain, Parser.chain, item.outcome_eq, read]
      simp only [if_pos shorter, ih]
  | case2 cursor value next read longer =>
      rw [Recorded.chain, Parser.chain, item.outcome_eq, read]
      simp only [if_neg longer]
  | case3 cursor fault failed => rw [Recorded.chain, Parser.chain, item.outcome_eq, failed]
  | case4 cursor deep => rw [Recorded.chain, Parser.chain, item.outcome_eq, deep]

/-- A call of a chain that ends for good ends the repetition in the same way. -/
theorem ending_many_of_mem (item : Trace p) {cursor : Cursor} {call : Call}
    (mem : call ∈ (Recorded.chain item.recorded cursor).1) (final : call.ending.isFinal = true) :
    (Parser.many p cursor).ending = call.ending := by
  have here : ∀ {cursor}, call ∈ item.calls cursor →
      (Parser.many p cursor).ending = call.ending := by
    intro cursor mem
    rw [Parser.ending_many_of_isFinal (item.isFinal_of_mem mem final)]
    exact item.decides mem final
  -- Along the chain of the items, at each of which the call may have been made.
  induction cursor using Parser.chain.induct p with
  | case1 cursor value next read shorter ih =>
      rcases Recorded.mem_fst_chain.1 mem with mem | ⟨other, place, run, -, mem⟩
      · exact here mem
      · obtain ⟨-, rfl⟩ := Outcome.ok.inj (read.symm.trans ((item.outcome_eq _).symm.trans run))
        rw [Parser.ending_many, read]
        exact (if_pos shorter).trans (ih mem)
  | case2 cursor value next read longer =>
      rw [Recorded.chain, item.outcome_eq, read] at mem
      simp only [if_neg longer] at mem
      exact here mem
  | case3 cursor fault failed =>
      rw [Recorded.chain, item.outcome_eq, failed] at mem
      exact here mem
  | case4 cursor deep =>
      rw [Recorded.chain, item.outcome_eq, deep] at mem
      exact here mem

/-- A repetition that ends for good does so because of a call of its chain. -/
theorem exists_call_of_many (item : Trace p) {cursor : Cursor}
    (final : (Parser.many p cursor).isFinal = true) :
    ∃ call ∈ (Recorded.chain item.recorded cursor).1,
      call.raises = true ∧ call.ending = (Parser.many p cursor).ending := by
  rw [← Outcome.isFinal_ending] at final
  have here : ∀ {cursor}, (p cursor).isFinal = true →
      ∃ call ∈ (Recorded.chain item.recorded cursor).1,
        call.raises = true ∧ call.ending = (Parser.many p cursor).ending := by
    intro cursor stopped
    exact item.exists_call stopped (Parser.ending_many_of_isFinal stopped) fun call mem =>
      Recorded.mem_fst_chain.2 (.inl mem)
  -- Along the chain: it ends for good only where the item does.
  induction cursor using Parser.chain.induct p with
  | case1 cursor value next read shorter ih =>
      have same : (Parser.many p cursor).ending = (Parser.many p next).ending := by
        rw [Parser.ending_many, read]
        exact if_pos shorter
      rw [same] at final ⊢
      obtain ⟨call, mem, raises, ending_eq⟩ := ih final
      have run : (item.recorded cursor).outcome = .ok value next :=
        (item.outcome_eq cursor).trans read
      exact ⟨call, Recorded.mem_fst_chain.2 (.inr ⟨value, next, run, shorter, mem⟩), raises,
        ending_eq⟩
  | case2 cursor value next read longer =>
      rw [Parser.ending_many, read] at final
      simp [longer, Outcome.isFinal] at final
  | case3 cursor fault failed =>
      refine here ?_
      rw [Parser.ending_many, failed] at final
      rw [failed]
      by_cases recoverable : fault.recoverable = true
      · simp [recoverable, Outcome.isFinal] at final
      · simpa [Outcome.isFinal] using recoverable
  | case4 cursor deep =>
      refine here ?_
      rw [deep]
      rfl

/-- A repetition calls its items. -/
def many (item : Trace p) : Trace (Parser.many p) where
  recorded cursor :=
    let chain := Recorded.chain item.recorded cursor
    ⟨chain.1, chain.2.toOutcome⟩
  outcome_eq cursor := congrArg Chain.toOutcome (item.snd_chain cursor)
  decides := item.ending_many_of_mem
  arises := item.exists_call_of_many

/-- The items behind separators are called together with the separators. -/
def behindSeparators {separator : Parser β} (item : Trace p) (separates : Trace separator) :
    Trace (Parser.behindSeparators p separator) where
  recorded := Recorded.behindSeparators (separates.bind fun _ => item).recorded
  outcome_eq cursor := by
    induction cursor using Parser.behindSeparators.induct p separator with
    | case1 cursor value next read shorter ih =>
        rw [Recorded.behindSeparators, Parser.behindSeparators, outcome_eq, read]
        simp only [if_pos shorter, ih]
    | case2 cursor value next read longer =>
        rw [Recorded.behindSeparators, Parser.behindSeparators, outcome_eq, read]
        simp only [if_neg longer]
    | case3 cursor fault failed recoverable =>
        rw [Recorded.behindSeparators, Parser.behindSeparators, outcome_eq, failed]
    | case4 cursor fault failed stays =>
        rw [Recorded.behindSeparators, Parser.behindSeparators, outcome_eq, failed]
    | case5 cursor deep =>
        rw [Recorded.behindSeparators, Parser.behindSeparators, outcome_eq, deep]
  decides {cursor call} mem final := by
    rw [Recorded.calls_behindSeparators] at mem
    have ending_eq := (separates.bind fun _ => item).ending_many_of_mem mem final
    rcases Parser.ending_behindSeparators p separator cursor with same | ⟨-, quiet⟩
    · exact same.trans ending_eq
    · rw [← Outcome.isFinal_ending, ending_eq, final] at quiet
      exact absurd quiet.symm Bool.false_ne_true
  arises {cursor} final := by
    rw [Recorded.calls_behindSeparators]
    rcases Parser.ending_behindSeparators p separator cursor with same | ⟨quiet, -⟩
    · rw [← Outcome.isFinal_ending, same, Outcome.isFinal_ending] at final
      rw [same]
      exact (separates.bind fun _ => item).exists_call_of_many final
    · rw [quiet] at final
      exact absurd final Bool.false_ne_true

/-- A repetition that needs an item. -/
def many1 (item : Trace p) (expected : Expectation) : Trace (Parser.many1 p expected) :=
  (item.orElse (complain _ rfl)).bind fun _ => item.many.bind fun _ => pure _

/-- A repetition with separators. -/
def separated1 {separator : Parser β} (item : Trace p) (separates : Trace separator)
    (expected : Expectation) : Trace (Parser.separated1 p separator expected) :=
  (item.orElse (complain _ rfl)).bind fun _ =>
    (item.behindSeparators separates).bind fun _ => pure _

/-! ### Values -/

/-- A reader whose value is turned into another calls what it called. -/
def map (f : α → β) (trace : Trace p) : Trace (p.map f) where
  recorded cursor := (trace.recorded cursor).andThen fun value next => .ok (f value) next
  outcome_eq cursor := by rw [Recorded.outcome_andThen, trace.outcome_eq, Parser.map]
  decides mem final := by
    rw [Parser.ending_map]
    exact trace.decides mem final
  arises {cursor} final := by
    rw [Parser.isFinal_map] at final
    exact trace.exists_call final (Parser.ending_map f p cursor) fun _ mem => mem

/-- The run of a reader whose value is judged. -/
def judged (trace : Trace p) (verdict : α → Except Complaint β) (cursor : Cursor) : Recorded β :=
  (trace.recorded cursor).andThen fun value next =>
    match verdict value with
    | .ok result => .ok result next
    | .error complaint => .fail (complaint.located cursor.offset)

/-- Recording the calls does not change the verdict. -/
theorem outcome_judged (trace : Trace p) (verdict : α → Except Complaint β) (cursor : Cursor) :
    (trace.judged verdict cursor).outcome = p.judge verdict cursor := by
  rw [judged, Recorded.outcome_andThen, trace.outcome_eq]
  rfl

/-- A reader whose value is judged, with complaints that may be made up for, calls what it
called. -/
def judge (trace : Trace p) (verdict : α → Except Complaint β)
    (mild : ∀ {value complaint}, verdict value = .error complaint →
      complaint.kind.recoverable = true) : Trace (p.judge verdict) where
  recorded := trace.judged verdict
  outcome_eq := trace.outcome_judged verdict
  decides mem final := by
    rw [Parser.ending_judge verdict (trace.isFinal_of_mem mem final)]
    exact trace.decides mem final
  arises {cursor} final := by
    rcases Parser.isFinal_judge final with stopped | ⟨value, complaint, judged, stays, -⟩
    · exact trace.exists_call stopped (Parser.ending_judge verdict stopped) fun _ mem => mem
    · rw [mild judged] at stays
      exact absurd stays nofun

/-- A reader whose value is judged for a missing argument is called itself: that call is where the
missing argument arises. -/
def judgeArgument (callee : Callee) (asks : callee ∈ Callee.askingForArgument) (trace : Trace p)
    (verdict : α → Except Complaint β) : Trace (p.judge verdict) where
  recorded cursor := (trace.judged verdict cursor).called callee cursor
  outcome_eq := trace.outcome_judged verdict
  decides {cursor call} mem final := by
    rcases List.mem_cons.1 mem with rfl | mem
    · rw [trace.outcome_judged]
    · rw [Parser.ending_judge verdict (trace.isFinal_of_mem mem final)]
      exact trace.decides mem final
  arises {cursor} final := by
    rcases Parser.isFinal_judge final with stopped | ⟨value, complaint, -, -, failed⟩
    · exact trace.exists_call stopped (Parser.ending_judge verdict stopped) fun _ mem =>
        List.mem_cons_of_mem _ mem
    · -- The complaint is that of the verdict, so the call is the one in front.
      refine ⟨_, List.mem_cons_self, ?_, ?_⟩
      · rw [Call.raises, trace.outcome_judged, failed]
        exact List.contains_iff_mem.2 asks
      · rw [trace.outcome_judged]

/-! ### Named readers -/

/-- The reader is called itself, and makes the calls of its body. -/
def call (callee : Callee) (trace : Trace p) : Trace p where
  recorded cursor := (trace.recorded cursor).called callee cursor
  outcome_eq := trace.outcome_eq
  decides {cursor call} mem final := by
    rcases List.mem_cons.1 mem with rfl | mem
    · rw [trace.outcome_eq]
    · exact trace.decides mem final
  arises final := trace.exists_call final rfl fun _ mem => List.mem_cons_of_mem _ mem

end Trace

end MathGrammar
