import MathGrammar.Proofs.Scan
import MathGrammar.Proofs.Success

/-! # Endings

How runs end, whatever they read. A run *ends for good* when nothing else may be tried after it:
when an argument is missing, or when commands nest too deeply. Nothing in between makes up for that,
so sequences, trials, repetitions and verdicts end as the reader that ended for good. -/

namespace MathGrammar

variable {α β : Type}

namespace Outcome

/-- How the run ended, whatever it read. -/
def ending : Outcome α → Outcome Unit
  | .ok _ next => .ok () next
  | .fail fault => .fail fault
  | .tooDeep => .tooDeep

/-- Whether nothing else may be tried after the run. -/
def isFinal : Outcome α → Bool
  | .ok _ _ => false
  | .fail fault => !fault.recoverable
  | .tooDeep => true

/-- Whether a run ends for good is told from its ending alone. -/
@[simp] theorem isFinal_ending (outcome : Outcome α) :
    outcome.ending.isFinal = outcome.isFinal := by
  cases outcome <;> rfl

/-- Only the failed run itself ends with its fault. -/
theorem ending_eq_fail_iff {outcome : Outcome α} {fault : Fault} :
    outcome.ending = .fail fault ↔ outcome = .fail fault := by
  cases outcome <;> simp [ending]

/-- Only the run that nests too deeply ends as one. -/
theorem ending_eq_tooDeep_iff {outcome : Outcome α} :
    outcome.ending = .tooDeep ↔ outcome = .tooDeep := by
  cases outcome <;> simp [ending]

/-- A run that ends for good is not gone on from. -/
theorem ending_bind {outcome : Outcome α} (final : outcome.isFinal = true)
    (go : α → Cursor → Outcome β) : (outcome.bind go).ending = outcome.ending := by
  cases outcome with
  | ok value next => exact absurd final nofun
  | fail fault => rfl
  | tooDeep => rfl

end Outcome

/-- A fault after which nothing else may be tried is that of a missing argument, and no other. -/
theorem Fault.recoverable_eq_false_iff {fault : Fault} :
    fault.recoverable = false ↔ fault.kind = .missingArgument := by
  unfold Fault.recoverable FaultKind.recoverable
  split <;> simp_all

/-- A missing argument ends the run for good. -/
theorem Outcome.isFinal_of_missing {fault : Fault} (missing : fault.kind = .missingArgument) :
    (fail fault : Outcome α).isFinal = true := by
  rw [isFinal, Fault.recoverable_eq_false_iff.2 missing]
  rfl

/-! ### Readers that always leave something to try -/

namespace Parser

/-- No run of the reader ends for good. -/
def Harmless (p : Parser α) : Prop := ∀ cursor, (p cursor).isFinal = false

/-- Another alternative may be tried after every fault of the reader. -/
def FailsRecoverably (p : Parser α) : Prop :=
  ∀ ⦃cursor : Cursor⦄ ⦃fault : Fault⦄, p cursor = .fail fault → fault.recoverable = true

variable {p q : Parser α}

/-- A reader that never ends for good has only faults that may be recovered from. -/
theorem Harmless.failsRecoverably (harmless : p.Harmless) : p.FailsRecoverably := by
  intro cursor fault failed
  have final := harmless cursor
  rw [failed] at final
  simpa [Outcome.isFinal] using final

/-- A scanner with complaints that may be made up for never ends a run for good. -/
theorem harmless_scan {look : Text → Except Complaint (α × Nat)}
    (mild : ∀ {text complaint}, look text = .error complaint →
      complaint.kind.recoverable = true) : (scan look).Harmless := by
  intro cursor
  unfold scan
  cases found : look cursor.rest with
  | ok result => rfl
  | error complaint =>
      show (!complaint.kind.recoverable) = false
      rw [mild found]
      rfl

/-- The name of a command may be missing without harm. -/
theorem harmless_commandName : commandName.Harmless := by
  rw [commandName_eq_scan]
  refine harmless_scan fun {text complaint} found => ?_
  unfold nameAhead at found
  split at found
  · dsimp only at found
    split at found
    · obtain rfl := Except.error.inj found
      rfl
    · simp at found
  · obtain rfl := Except.error.inj found
    rfl

/-- Parameters are never complained about. -/
theorem harmless_params : params.Harmless := by
  rw [params_eq_scan]
  refine harmless_scan fun {text complaint} found => ?_
  unfold paramsAhead at found
  split at found
  · dsimp only at found
    split at found <;> simp at found
  · simp at found

/-- A mark of repetition is never complained about. -/
theorem harmless_repetition : repetition.Harmless := by
  rw [repetition_eq_scan]
  refine harmless_scan fun {text complaint} found => ?_
  unfold repetitionAhead at found
  split at found <;> simp at found

/-- A literal that is not closed may be made up for by another alternative. -/
theorem harmless_literalArgument : literalArgument.Harmless := by
  rw [literalArgument_eq_scan]
  refine harmless_scan fun {text complaint} found => ?_
  unfold literalArgumentAhead at found
  split at found
  · simp at found
  · obtain rfl := Except.error.inj found
    rfl

/-- A sign that is missing may be made up for by another alternative. -/
theorem harmless_literal (characters : Text) : (literal characters).Harmless := by
  rw [literal_eq_scan]
  refine harmless_scan fun {text complaint} found => ?_
  unfold charactersAhead at found
  split at found
  · simp at found
  · obtain rfl := Except.error.inj found
    rfl

/-- Skipping spacing never fails. -/
theorem harmless_skip (spacing : Spacing) : (skip spacing).Harmless := fun _ => rfl

/-- A value without any reading never fails. -/
theorem harmless_pure (value : α) : (pure value : Parser α).Harmless := fun _ => rfl

/-- A complaint that may be made up for does no harm. -/
theorem harmless_complain {complaint : Complaint} (mild : complaint.kind.recoverable = true) :
    (complain complaint : Parser α).Harmless := by
  intro cursor
  show (!complaint.kind.recoverable) = false
  rw [mild]
  rfl

/-! ### Trials -/

variable {cursor : Cursor}

/-- The second alternative is not tried where the first one ends for good. -/
theorem orElse_of_isFinal (final : (p cursor).isFinal = true) : p.orElse q cursor = p cursor := by
  unfold orElse
  cases run : p cursor with
  | ok value next => rfl
  | fail fault =>
      rw [run] at final
      have stays : fault.recoverable ≠ true := by simpa [Outcome.isFinal] using final
      exact if_neg stays
  | tooDeep => rfl

/-- The second alternative starts where the first one did. -/
theorem orElse_of_fail {fault : Fault} (failed : p cursor = .fail fault)
    (recoverable : fault.recoverable = true) : p.orElse q cursor = q cursor := by
  unfold orElse
  rw [failed]
  exact if_pos recoverable

/-- A trial takes the value of the first alternative, ends for good in it, or goes on to the
second. -/
theorem orElse_cases (p q : Parser α) (cursor : Cursor) :
    (∃ value next, p.orElse q cursor = .ok value next ∧ p cursor = .ok value next) ∨
      ((p cursor).isFinal = true ∧ p.orElse q cursor = p cursor) ∨
        p.orElse q cursor = q cursor := by
  by_cases final : (p cursor).isFinal = true
  · exact .inr (.inl ⟨final, orElse_of_isFinal final⟩)
  cases run : p cursor with
  | ok value next => exact .inl ⟨value, next, by rw [orElse, run], rfl⟩
  | fail fault =>
      have recoverable : fault.recoverable = true := by simpa [run, Outcome.isFinal] using final
      exact .inr (.inr (orElse_of_fail run recoverable))
  | tooDeep => simp [run, Outcome.isFinal] at final

/-! ### Failures -/

/-- A sequence fails as its first reader does. -/
theorem bind_of_fail {f : α → Parser β} {fault : Fault} (failed : p cursor = .fail fault) :
    (p >>= f) cursor = .fail fault := by
  rw [bind_apply, failed, Outcome.bind_fail]

/-- A fault is not changed with the value. -/
theorem map_of_fail {f : α → β} {fault : Fault} (failed : p cursor = .fail fault) :
    p.map f cursor = .fail fault := by
  rw [map, failed, Outcome.bind_fail]

/-- Turning the value into another does not change how the run ends. -/
theorem ending_map (f : α → β) (p : Parser α) (cursor : Cursor) :
    (p.map f cursor).ending = (p cursor).ending := by
  unfold map
  cases p cursor <;> rfl

/-- Turning the value into another does not change whether the run ends for good. -/
theorem isFinal_map (f : α → β) (p : Parser α) (cursor : Cursor) :
    (p.map f cursor).isFinal = (p cursor).isFinal := by
  rw [← Outcome.isFinal_ending, ending_map, Outcome.isFinal_ending]

/-- A sequence ends for good in its first reader, or behind the value of that. -/
theorem isFinal_bind {f : α → Parser β} (final : ((p >>= f) cursor).isFinal = true) :
    ((p cursor).isFinal = true ∧ ((p >>= f) cursor).ending = (p cursor).ending) ∨
      ∃ value between, p cursor = .ok value between ∧ (p >>= f) cursor = f value between := by
  rw [bind_apply] at final ⊢
  cases run : p cursor with
  | ok value between => exact .inr ⟨value, between, rfl, rfl⟩
  | fail fault =>
      rw [run] at final
      exact .inl ⟨final, rfl⟩
  | tooDeep => exact .inl ⟨rfl, rfl⟩

/-- A sequence of readers that never end for good never does either. -/
theorem Harmless.bind {f : α → Parser β} (first : p.Harmless) (next : ∀ value, (f value).Harmless) :
    (p >>= f).Harmless := by
  intro cursor
  rw [Bool.eq_false_iff]
  intro final
  rcases isFinal_bind final with ⟨stopped, -⟩ | ⟨value, between, -, run⟩
  · rw [first cursor] at stopped
    exact nomatch stopped
  · rw [run, next value between] at final
    exact nomatch final

/-- A sign with the spacing behind it never ends a run for good. -/
theorem harmless_token (characters : Text) (spacing : Spacing) :
    (token characters spacing).Harmless :=
  (harmless_literal characters).bind fun _ => harmless_skip spacing

/-! ### Repetitions -/

/-- One more item in front does not change how a repetition ends. -/
theorem ending_toOutcome_cons (value : α) (next : Cursor) (chain : Chain α) :
    (chain.cons value next).toOutcome.ending = chain.toOutcome.ending := by
  rw [Chain.toOutcome_cons]
  cases chain.toOutcome <;> rfl

/-- How a repetition ends, by what the item does first. -/
theorem ending_many (p : Parser α) (cursor : Cursor) : (many p cursor).ending =
    match p cursor with
    | .ok _ next =>
      if next.rest.length < cursor.rest.length then (many p next).ending else .ok () next
    | .fail fault => if fault.recoverable then .ok () cursor else .fail fault
    | .tooDeep => .tooDeep := by
  unfold many
  rw [chain]
  cases p cursor with
  | ok value next =>
      by_cases shorter : next.rest.length < cursor.rest.length
      · simp only [if_pos shorter]
        exact ending_toOutcome_cons value next _
      · simp only [if_neg shorter]
        rfl
  | fail fault =>
      by_cases recoverable : fault.recoverable = true
      · simp only [Chain.toOutcome, if_pos recoverable]
        rfl
      · simp only [Chain.toOutcome, if_neg recoverable, Outcome.ending]
  | tooDeep => rfl

/-- A repetition ends for good where its item does. -/
theorem ending_many_of_isFinal (final : (p cursor).isFinal = true) :
    (many p cursor).ending = (p cursor).ending := by
  rw [ending_many]
  cases run : p cursor with
  | ok value next =>
      rw [run] at final
      exact absurd final nofun
  | fail fault =>
      rw [run] at final
      have stays : fault.recoverable ≠ true := by simpa [Outcome.isFinal] using final
      exact if_neg stays
  | tooDeep => rfl

/-- Items behind separators end as a repetition of the pairs does, unless neither ends for good: a
pair that takes up nothing is kept by the one and left by the other. -/
theorem ending_behindSeparators (item : Parser α) (separator : Parser β) (cursor : Cursor) :
    (behindSeparators item separator cursor).ending
        = (many (separator >>= fun _ => item) cursor).ending ∨
      (behindSeparators item separator cursor).isFinal = false ∧
        (many (separator >>= fun _ => item) cursor).isFinal = false := by
  -- Along the chain of the pairs, of which each that leads on is the first of both.
  induction cursor using behindSeparators.induct item separator with
  | case1 cursor value next read shorter ih =>
      have behind : (behindSeparators item separator cursor).ending
          = (behindSeparators item separator next).ending := by
        rw [behindSeparators_of_ok read shorter]
        exact ending_map (value :: ·) (behindSeparators item separator) next
      have repeated : (many (separator >>= fun _ => item) cursor).ending
          = (many (separator >>= fun _ => item) next).ending := by
        rw [ending_many, read]
        exact if_pos shorter
      rw [← Outcome.isFinal_ending, ← Outcome.isFinal_ending (many _ _), behind, repeated,
        Outcome.isFinal_ending, Outcome.isFinal_ending]
      exact ih
  | case2 cursor value next read longer =>
      refine .inr ⟨?_, ?_⟩
      · rw [behindSeparators, read]
        simp [longer, Outcome.isFinal]
      · rw [← Outcome.isFinal_ending, ending_many, read]
        simp [longer, Outcome.isFinal]
  | case3 cursor fault failed recoverable =>
      rw [behindSeparators_of_fail failed recoverable, ending_many, failed]
      exact .inl (if_pos recoverable).symm
  | case4 cursor fault failed stays =>
      rw [behindSeparators, ending_many, failed]
      simp [stays, Outcome.ending]
  | case5 cursor deep =>
      rw [behindSeparators, ending_many, deep]
      exact .inl rfl

/-! ### Verdicts -/

/-- No verdict is given where the reader ended for good. -/
theorem ending_judge (verdict : α → Except Complaint β) (final : (p cursor).isFinal = true) :
    (p.judge verdict cursor).ending = (p cursor).ending :=
  Outcome.ending_bind final _

/-- A value that is rejected is complained about where it began. -/
theorem judge_of_error {verdict : α → Except Complaint β} {value : α} {next : Cursor}
    {complaint : Complaint} (read : p cursor = .ok value next)
    (rejected : verdict value = .error complaint) :
    p.judge verdict cursor = .fail (complaint.located cursor.offset) := by
  unfold judge
  rw [read, Outcome.bind_ok, rejected]

/-- No verdict is given on what nests too deeply, and none says that anything does. -/
theorem judge_eq_tooDeep {verdict : α → Except Complaint β} :
    p.judge verdict cursor = .tooDeep ↔ p cursor = .tooDeep := by
  unfold judge
  cases p cursor with
  | ok value next => cases judged : verdict value <;> simp [judged]
  | fail fault => simp
  | tooDeep => simp

/-- A run whose value is judged ends for good where the reader does, or by the complaint. -/
theorem isFinal_judge {verdict : α → Except Complaint β}
    (final : (p.judge verdict cursor).isFinal = true) : (p cursor).isFinal = true ∨
      ∃ value complaint, verdict value = .error complaint ∧ complaint.kind.recoverable = false ∧
        p.judge verdict cursor = .fail (complaint.located cursor.offset) := by
  unfold judge at final
  -- The verdict is asked for only where a value was read.
  cases run : p cursor with
  | ok value next =>
      rw [run, Outcome.bind_ok] at final
      cases judged : verdict value with
      | ok result =>
          rw [judged] at final
          exact absurd final nofun
      | error complaint =>
          rw [judged] at final
          have stays : complaint.kind.recoverable = false := by
            simpa [Outcome.isFinal, Fault.recoverable, Complaint.located] using final
          exact .inr ⟨value, complaint, judged, stays, judge_of_error run judged⟩
  | fail fault =>
      rw [run] at final
      exact .inl final
  | tooDeep => exact .inl rfl

/-! ### Faults that may be recovered from -/

namespace FailsRecoverably

/-- A sequence has the faults of its readers. -/
theorem bind {f : α → Parser β} (first : p.FailsRecoverably)
    (next : ∀ value, (f value).FailsRecoverably) : (p >>= f).FailsRecoverably := by
  intro cursor fault failed
  rw [bind_apply] at failed
  -- The fault is that of the first reader, or that of the reader behind its value.
  cases run : p cursor with
  | ok value after =>
      rw [run] at failed
      exact next value failed
  | fail other =>
      rw [run] at failed
      obtain rfl := Outcome.fail.inj failed
      exact first run
  | tooDeep => simp [run] at failed

/-- A verdict with complaints that may be made up for adds none that stays. -/
theorem judge {verdict : α → Except Complaint β} (first : p.FailsRecoverably)
    (mild : ∀ {value complaint}, verdict value = .error complaint →
      complaint.kind.recoverable = true) : (p.judge verdict).FailsRecoverably := by
  intro cursor fault failed
  unfold Parser.judge at failed
  cases run : p cursor with
  | ok value after =>
      rw [run, Outcome.bind_ok] at failed
      cases judged : verdict value with
      | ok result => simp [judged] at failed
      | error complaint =>
          rw [judged] at failed
          obtain rfl := Outcome.fail.inj failed
          exact mild judged
  | fail other =>
      rw [run] at failed
      obtain rfl := Outcome.fail.inj failed
      exact first run
  | tooDeep => simp [run] at failed

/-- A trial has the faults of its second alternative, and the first one's never stay. -/
theorem orElse (second : q.FailsRecoverably) (first : p.FailsRecoverably) :
    (p.orElse q).FailsRecoverably := by
  intro cursor fault failed
  unfold Parser.orElse at failed
  cases run : p cursor with
  | ok value after => simp [run] at failed
  | fail other =>
      simp only [run, first run, if_true] at failed
      exact second failed
  | tooDeep => simp [run] at failed

/-- Alternatives have the faults of each, and their complaint when none of them matches. -/
theorem firstOf {ps : List (Parser α)} {complaint : Complaint}
    (mild : complaint.kind.recoverable = true) (each : ∀ p ∈ ps, p.FailsRecoverably) :
    (firstOf ps complaint).FailsRecoverably := by
  induction ps with
  | nil => exact (harmless_complain mild).failsRecoverably
  | cons p ps ih =>
      have others : (Parser.firstOf ps complaint).FailsRecoverably :=
        ih fun q mem => each q (List.mem_cons_of_mem p mem)
      exact others.orElse (each p List.mem_cons_self)

/-- A fault that ends a repetition for good is a fault of its item. -/
theorem many (item : p.FailsRecoverably) : (many p).FailsRecoverably := by
  intro cursor fault failed
  rw [← Outcome.ending_eq_fail_iff] at failed
  -- Along the chain of the items: only its end may fail, where the item is tried once more.
  induction cursor using chain.induct p with
  | case1 cursor value next read shorter ih =>
      rw [ending_many, read] at failed
      simp only [if_pos shorter] at failed
      exact ih failed
  | case2 cursor value next read longer =>
      rw [ending_many, read] at failed
      simp [longer] at failed
  | case3 cursor other unread =>
      rw [ending_many, unread] at failed
      simp [item unread] at failed
  | case4 cursor deep =>
      rw [ending_many, deep] at failed
      simp at failed

end FailsRecoverably

/-! ### Commands -/

/-- An argument is missed by itself only in ways that may be made up for, if the commands in it
are. -/
theorem failsRecoverably_argument {inner : Parser Command} (commands : inner.FailsRecoverably) :
    (argument inner).FailsRecoverably := by
  refine (harmless_literal _).failsRecoverably.bind fun _ => .firstOf rfl fun p mem => ?_
  simp only [List.mem_cons, List.not_mem_nil, or_false] at mem
  rcases mem with rfl | rfl
  · exact commands.bind fun _ => (harmless_literal _).failsRecoverably.bind fun _ =>
      (harmless_pure _).failsRecoverably
  · exact harmless_literalArgument.failsRecoverably

/-- No command misses an argument by itself: what its name asks for is judged afterwards. -/
theorem failsRecoverably_command (limit : Nat) : (command limit).FailsRecoverably := by
  -- On the limit: the commands inside the arguments are read under the limit before it.
  induction limit with
  | zero => exact harmless_commandName.failsRecoverably.bind fun _ => nofun
  | succ limit ih =>
      exact harmless_commandName.failsRecoverably.bind fun _ =>
        harmless_params.failsRecoverably.bind fun _ =>
          (failsRecoverably_argument ih).many.bind fun _ =>
            harmless_repetition.failsRecoverably.bind fun _ =>
              (harmless_skip _).failsRecoverably.bind fun _ => (harmless_pure _).failsRecoverably

/-- A command of another name is a mismatch that may be recovered from. -/
theorem recoverable_of_commandNamed {kind : FaultKind} (mild : kind.recoverable = true)
    {name : Text} {read : Command} {complaint : Complaint}
    (rejected : (if read.name = name then (.ok read : Except Complaint Command)
      else .error ⟨kind, .commandNamed name⟩) = .error complaint) :
    complaint.kind.recoverable = true := by
  split at rejected
  · simp at rejected
  · obtain rfl := Except.error.inj rejected
    exact mild

/-- A command of a given name is missed only in ways that may be made up for. -/
theorem failsRecoverably_commandNamed (limit : Nat) {kind : FaultKind}
    (mild : kind.recoverable = true) (name : Text) :
    (commandNamed limit kind name).FailsRecoverably :=
  (failsRecoverably_command limit).judge (recoverable_of_commandNamed mild)

end Parser

end MathGrammar
