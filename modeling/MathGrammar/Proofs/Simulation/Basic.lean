import MathGrammar.Parser.Chain
import Mathlib.Data.List.Forall2

/-! # Two runs compared

A simulation says which places and which faults of two runs correspond. Readers that send
corresponding places to corresponding outcomes are *related*, and every combinator keeps
relatedness, so a statement about two runs of a large reader comes down to its smallest parts. Three
comparisons have this form: a text and the same text further left, a text and its extension, and two
limits on nesting. A run compared with itself gives the invariants of a single run. -/

namespace MathGrammar

/-- A correspondence between the places and the faults of two runs. -/
structure Simulation where
  /-- Which places correspond. -/
  Places : Cursor → Cursor → Prop
  /-- Which faults correspond. -/
  Faults : Fault → Fault → Prop
  /-- Whether a first run that nests too deeply corresponds to every second run. -/
  Lenient : Prop
  /-- By how many characters the rest of the second text is longer. -/
  surplus : Nat
  /-- A complaint at corresponding places gives corresponding faults. -/
  located : ∀ {first second : Cursor} (complaint : Complaint), Places first second →
    Faults (complaint.located first.offset) (complaint.located second.offset)
  /-- Corresponding faults are recovered alike. -/
  recoverable_eq : ∀ {first second : Fault}, Faults first second →
    first.recoverable = second.recoverable
  /-- The surplus is the same at all corresponding places. -/
  length_eq : ∀ {first second : Cursor}, Places first second →
    second.rest.length = first.rest.length + surplus

namespace Simulation

variable (S : Simulation) {α β : Type}

/-- Outcomes that correspond: the same value at corresponding places, corresponding faults, or the
same refusal to nest any deeper. -/
inductive Outcomes : Outcome α → Outcome α → Prop where
  /-- Both runs read the same value. -/
  | ok (value : α) {first second : Cursor} (places : S.Places first second) :
    Outcomes (.ok value first) (.ok value second)
  /-- Both runs fail. -/
  | fail {first second : Fault} (faults : S.Faults first second) :
    Outcomes (.fail first) (.fail second)
  /-- Both runs nest too deeply. -/
  | tooDeep : Outcomes .tooDeep .tooDeep
  /-- Only the first run has to nest too deeply. -/
  | lenient (lenient : S.Lenient) (second : Outcome α) : Outcomes .tooDeep second

/-- Readers with corresponding outcomes at corresponding places. -/
def Related (first second : Parser α) : Prop :=
  ∀ ⦃c c' : Cursor⦄, S.Places c c' → S.Outcomes (first c) (second c')

/-- What stops two corresponding chains. -/
inductive Stops : Stop → Stop → Prop where
  /-- Corresponding faults. -/
  | fault {first second : Fault} (faults : S.Faults first second) :
    Stops (.fault first) (.fault second)
  /-- Nesting in both runs. -/
  | tooDeep : Stops .tooDeep .tooDeep
  /-- An item that consumed nothing in both runs. -/
  | stalled : Stops .stalled .stalled

/-- Chains of the same values that end at corresponding places for corresponding reasons. -/
structure Chains (first second : Chain α) : Prop where
  /-- The items have the same values. -/
  values_eq : first.values = second.values
  /-- The chains end at corresponding places. -/
  final : S.Places first.final second.final
  /-- They end for corresponding reasons. -/
  stop : S.Stops first.stop second.stop

variable {S}

/-! ### Corresponding runs -/

/-- Where the first reader reads a value, the second reads it too. -/
theorem Related.exists_of_ok {p q : Parser α} (related : S.Related p q) {c c' next : Cursor}
    {value : α} (places : S.Places c c') (read : p c = .ok value next) :
    ∃ next', q c' = .ok value next' ∧ S.Places next next' := by
  have outcomes := related places
  rw [read] at outcomes
  generalize q c' = second at outcomes ⊢
  cases outcomes with
  | ok _ after => exact ⟨_, rfl, after⟩

/-- Where the first reader fails, the second fails with the corresponding fault. -/
theorem Related.exists_of_fail {p q : Parser α} (related : S.Related p q) {c c' : Cursor}
    {fault : Fault} (places : S.Places c c') (failed : p c = .fail fault) :
    ∃ fault', q c' = .fail fault' ∧ S.Faults fault fault' := by
  have outcomes := related places
  rw [failed] at outcomes
  generalize q c' = second at outcomes ⊢
  cases outcomes with
  | fail faults => exact ⟨_, rfl, faults⟩

/-- Where the first reader nests too deeply, so does the second, unless that is enough. -/
theorem Related.lenient_or_of_tooDeep {p q : Parser α} (related : S.Related p q) {c c' : Cursor}
    (places : S.Places c c') (deep : p c = .tooDeep) : S.Lenient ∨ q c' = .tooDeep := by
  have outcomes := related places
  rw [deep] at outcomes
  generalize q c' = second at outcomes ⊢
  cases outcomes with
  | tooDeep => exact .inr rfl
  | lenient lenient => exact .inl lenient

/-- Corresponding runs take something up together, as the surplus is the same at both ends. -/
theorem shorter_iff {c c' next next' : Cursor} (places : S.Places c c')
    (after : S.Places next next') :
    next'.rest.length < c'.rest.length ↔ next.rest.length < c.rest.length := by
  rw [S.length_eq after, S.length_eq places]
  omega

/-! ### Combinators -/

/-- Related readers of one value after another are related. -/
theorem Outcomes.bind {first second : Outcome α} {go go' : α → Cursor → Outcome β}
    (outcomes : S.Outcomes first second)
    (next : ∀ value ⦃c c' : Cursor⦄, S.Places c c' → S.Outcomes (go value c) (go' value c')) :
    S.Outcomes (first.bind go) (second.bind go') := by
  cases outcomes with
  | ok value places => exact next value places
  | fail faults => exact .fail faults
  | tooDeep => exact .tooDeep
  | lenient lenient => exact .lenient lenient _

/-- A value without any reading is related to itself. -/
theorem Related.pure (value : α) : S.Related (pure value : Parser α) (pure value) :=
  fun _ _ places => .ok value places

/-- Sequences of related readers are related. -/
theorem Related.bind {p q : Parser α} {f g : α → Parser β} (first : S.Related p q)
    (next : ∀ value, S.Related (f value) (g value)) : S.Related (p >>= f) (q >>= g) :=
  fun _ _ places => (first places).bind fun value _ _ after => next value after

/-- Related readers are related when their values are turned into others. -/
theorem Related.map (f : α → β) {p q : Parser α} (first : S.Related p q) :
    S.Related (p.map f) (q.map f) :=
  fun _ _ places => (first places).bind fun value _ _ after => .ok (f value) after

/-- A complaint is related to itself, at related places. -/
theorem Related.complain (complaint : Complaint) :
    S.Related (Parser.complain complaint : Parser α) (Parser.complain complaint) :=
  fun _ _ places => .fail (S.located complaint places)

/-- A verdict on the value is the same in both runs, and its complaint is placed where the value
began in each. -/
theorem Related.judge (verdict : α → Except Complaint β) {p q : Parser α}
    (first : S.Related p q) : S.Related (p.judge verdict) (q.judge verdict) := by
  intro c c' places
  refine (first places).bind fun value _ _ after => ?_
  cases verdict value with
  | ok result => exact .ok result after
  | error complaint => exact .fail (S.located complaint places)

/-- Whether the second alternative is tried depends on the fault's recoverability alone. -/
theorem Related.orElse {p q p' q' : Parser α} (first : S.Related p q)
    (second : S.Related p' q') : S.Related (p.orElse p') (q.orElse q') := by
  intro c c' places
  have outcomes := first places
  unfold Parser.orElse
  -- The second alternatives start where the first ones did.
  generalize p c = o at outcomes ⊢
  generalize q c' = o' at outcomes ⊢
  cases outcomes with
  | ok value after => exact .ok value after
  | fail faults =>
      simp only [S.recoverable_eq faults]
      split
      · exact second places
      · exact .fail faults
  | tooDeep => exact .tooDeep
  | lenient lenient => exact .lenient lenient _

/-- Alternatives are related when they are one by one. -/
theorem Related.firstOf {ps qs : List (Parser α)} (complaint : Complaint)
    (all : List.Forall₂ S.Related ps qs) :
    S.Related (Parser.firstOf ps complaint) (Parser.firstOf qs complaint) := by
  induction all with
  | nil => exact Related.complain complaint
  | cons first _ ih => exact first.orElse ih

/-! ### Chains -/

/-- Related chains are related with the same value in front. -/
theorem Chains.cons {first second : Chain α} (value : α) {next next' : Cursor}
    (chains : S.Chains first second) :
    S.Chains (first.cons value next) (second.cons value next') where
  values_eq := congrArg (value :: ·) chains.values_eq
  final := chains.final
  stop := chains.stop

/-- Related items chain alike, unless the first chain stops for its nesting and that is enough. -/
theorem Related.chain {p q : Parser α} (item : S.Related p q) {c c' : Cursor}
    (places : S.Places c c') :
    S.Chains (Parser.chain p c) (Parser.chain q c') ∨
      S.Lenient ∧ (Parser.chain p c).stop = .tooDeep := by
  -- Along the first chain: the second run stalls exactly when the first does.
  induction c using Parser.chain.induct p generalizing c' with
  | case1 c value next read shorter ih =>
      obtain ⟨next', read', after⟩ := item.exists_of_ok places read
      rw [Parser.chain, Parser.chain, read, read']
      simp only [if_pos shorter, if_pos ((shorter_iff places after).2 shorter)]
      exact (ih after).imp (Chains.cons value) id
  | case2 c value next read longer =>
      obtain ⟨next', read', after⟩ := item.exists_of_ok places read
      rw [Parser.chain, Parser.chain, read, read']
      simp only [if_neg longer, if_neg (mt (shorter_iff places after).1 longer)]
      exact .inl ⟨rfl, after, .stalled⟩
  | case3 c fault failed =>
      obtain ⟨fault', failed', faults⟩ := item.exists_of_fail places failed
      rw [Parser.chain, Parser.chain, failed, failed']
      exact .inl ⟨rfl, places, .fault faults⟩
  | case4 c deep =>
      rw [Parser.chain, deep]
      rcases item.lenient_or_of_tooDeep places deep with lenient | deep'
      · exact .inr ⟨lenient, rfl⟩
      · rw [Parser.chain, deep']
        exact .inl ⟨rfl, places, .tooDeep⟩

/-- Corresponding chains end a repetition alike. -/
theorem Chains.toOutcome {first second : Chain α} (chains : S.Chains first second) :
    S.Outcomes first.toOutcome second.toOutcome := by
  obtain ⟨items, final, stop⟩ := first
  obtain ⟨items', final', stop'⟩ := second
  obtain ⟨values_eq, places, stops⟩ := chains
  simp only [Chain.toOutcome]
  cases stops with
  | fault faults =>
      simp only [S.recoverable_eq faults]
      split
      · rw [values_eq]
        exact .ok _ places
      · exact .fail faults
  | tooDeep => exact .tooDeep
  | stalled =>
      rw [values_eq]
      exact .ok _ places

/-- Repetitions of related items are related. -/
theorem Related.many {p q : Parser α} (item : S.Related p q) :
    S.Related (Parser.many p) (Parser.many q) := by
  intro c c' places
  rcases item.chain places with chains | ⟨lenient, deep⟩
  · exact chains.toOutcome
  · have outcome : Parser.many p c = .tooDeep := by simp [Parser.many, Chain.toOutcome, deep]
    rw [outcome]
    exact .lenient lenient _

/-- Repetitions of related items that need one are related. -/
theorem Related.many1 (expected : Expectation) {p q : Parser α} (item : S.Related p q) :
    S.Related (Parser.many1 p expected) (Parser.many1 q expected) :=
  (item.orElse (.complain _)).bind fun _ => item.many.bind fun _ => .pure _

/-- Related items behind related separators are read alike. -/
theorem Related.behindSeparators {p q : Parser α} {r s : Parser β} (item : S.Related p q)
    (separator : S.Related r s) :
    S.Related (Parser.behindSeparators p r) (Parser.behindSeparators q s) := by
  have pair := separator.bind fun _ => item
  intro c c' places
  -- Along the first run: the second takes a pair exactly when the first does.
  induction c using Parser.behindSeparators.induct p r generalizing c' with
  | case1 c value next read shorter ih =>
      obtain ⟨next', read', after⟩ := pair.exists_of_ok places read
      rw [Parser.behindSeparators, Parser.behindSeparators, read, read']
      simp only [if_pos shorter, if_pos ((shorter_iff places after).2 shorter)]
      exact (ih after).bind fun values _ _ last => .ok (value :: values) last
  | case2 c value next read longer =>
      obtain ⟨next', read', after⟩ := pair.exists_of_ok places read
      rw [Parser.behindSeparators, Parser.behindSeparators, read, read']
      simp only [if_neg longer, if_neg (mt (shorter_iff places after).1 longer)]
      exact .ok [] places
  | case3 c fault failed recoverable =>
      obtain ⟨fault', failed', faults⟩ := pair.exists_of_fail places failed
      rw [Parser.behindSeparators, Parser.behindSeparators, failed, failed']
      simp only [if_pos recoverable, if_pos ((S.recoverable_eq faults).symm.trans recoverable)]
      exact .ok [] places
  | case4 c fault failed final =>
      obtain ⟨fault', failed', faults⟩ := pair.exists_of_fail places failed
      rw [Parser.behindSeparators, Parser.behindSeparators, failed, failed']
      simp only [if_neg final, if_neg ((S.recoverable_eq faults).symm ▸ final)]
      exact .fail faults
  | case5 c deep =>
      rw [Parser.behindSeparators, deep]
      rcases pair.lenient_or_of_tooDeep places deep with lenient | deep'
      · exact .lenient lenient _
      · rw [Parser.behindSeparators, deep']
        exact .tooDeep

/-- Related repetitions with separators. -/
theorem Related.separated1 (expected : Expectation) {p q : Parser α} {r s : Parser β}
    (item : S.Related p q) (separator : S.Related r s) :
    S.Related (Parser.separated1 p r expected) (Parser.separated1 q s expected) :=
  (item.orElse (.complain _)).bind fun _ =>
    (item.behindSeparators separator).bind fun _ => .pure _

/-! ### Invariants -/

/-- A run and itself, at places where the invariant holds. -/
def invariant (Holds : Cursor → Prop) : Simulation where
  Places first second := second = first ∧ Holds first
  Faults first second := second = first
  Lenient := False
  surplus := 0
  located := by rintro first _ complaint ⟨rfl, -⟩; rfl
  recoverable_eq := by rintro first _ rfl; rfl
  length_eq := by rintro first _ ⟨rfl, -⟩; rfl

/-- A reader that is related to itself keeps the invariant. -/
theorem Related.holds {Holds : Cursor → Prop} {p : Parser α} {cursor next : Cursor} {value : α}
    (related : (invariant Holds).Related p p) (holds : Holds cursor)
    (run : p cursor = .ok value next) : Holds next := by
  have outcomes := related (c := cursor) ⟨rfl, holds⟩
  rw [run] at outcomes
  cases outcomes with
  | ok value places => exact places.2

/-- A reader keeps the invariant when every success does. -/
theorem invariant_related {Holds : Cursor → Prop} {p : Parser α}
    (each : ∀ {cursor next : Cursor} {value : α}, Holds cursor → p cursor = .ok value next →
      Holds next) : (invariant Holds).Related p p := by
  intro cursor cursor' places
  obtain ⟨rfl, holds⟩ := places
  cases run : p cursor' with
  | ok value next => exact .ok value ⟨rfl, each holds run⟩
  | fail fault => exact .fail rfl
  | tooDeep => exact .tooDeep

end Simulation

end MathGrammar
