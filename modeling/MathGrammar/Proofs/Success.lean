import MathGrammar.Parser.Chain

/-! # Successful runs

A run that succeeds can be taken apart: a sequence succeeds step by step, a choice by one of its
alternatives, a repetition item by item. -/

namespace MathGrammar

variable {α β : Type}

/-- Going on gives a value when there was one and what follows it succeeds. -/
theorem Outcome.bind_eq_ok {outcome : Outcome α} {go : α → Cursor → Outcome β} {value : β}
    {next : Cursor} : outcome.bind go = .ok value next ↔
      ∃ first between, outcome = .ok first between ∧ go first between = .ok value next := by
  cases outcome with
  | ok read between =>
      simp only [bind_ok, ok.injEq]
      constructor
      · exact fun run => ⟨read, between, ⟨rfl, rfl⟩, run⟩
      · rintro ⟨_, _, ⟨rfl, rfl⟩, run⟩
        exact run
  | fail fault => simp
  | tooDeep => simp

/-- A chain that ends quietly gives its values and the place after them. -/
theorem Chain.toOutcome_eq_ok {chain : Chain α} {values : List α} {next : Cursor}
    (run : chain.toOutcome = .ok values next) : chain.values = values ∧ chain.final = next := by
  unfold Chain.toOutcome at run
  split at run
  · split at run
    · simpa using run
    · simp at run
  · simp at run
  · simpa using run

/-- One more item in front of a chain is one more value in front of what it gives: the chain stops
in the same place for the same reason. -/
theorem Chain.toOutcome_cons (value : α) (next : Cursor) (chain : Chain α) :
    (chain.cons value next).toOutcome
      = chain.toOutcome.bind fun values after => .ok (value :: values) after := by
  obtain ⟨items, final, stop⟩ := chain
  cases stop with
  | fault fault =>
      simp only [toOutcome, cons]
      by_cases recoverable : fault.recoverable = true
      · rw [if_pos recoverable, if_pos recoverable]
        rfl
      · rw [if_neg recoverable, if_neg recoverable]
        rfl
  | tooDeep => rfl
  | stalled => rfl

namespace Parser

variable {p q : Parser α} {cursor next : Cursor}

/-- A value without any reading is given at the place where the run stands. -/
theorem pure_eq_ok {value result : α} :
    (pure value : Parser α) cursor = .ok result next ↔ value = result ∧ cursor = next := by
  rw [pure_apply, Outcome.ok.injEq]

/-- A sequence succeeds when its first reader does and the next one behind that. -/
theorem bind_eq_ok {f : α → Parser β} {value : β} : (p >>= f) cursor = .ok value next ↔
    ∃ first between, p cursor = .ok first between ∧ f first between = .ok value next := by
  rw [bind_apply, Outcome.bind_eq_ok]

/-- A value that is turned into another comes from a value that was read. -/
theorem map_eq_ok {f : α → β} {value : β} :
    p.map f cursor = .ok value next ↔ ∃ read, p cursor = .ok read next ∧ f read = value := by
  simp only [map, Outcome.bind_eq_ok, Outcome.ok.injEq]
  constructor
  · rintro ⟨read, _, run, rfl, rfl⟩
    exact ⟨read, run, rfl⟩
  · rintro ⟨read, run, rfl⟩
    exact ⟨read, next, run, rfl, rfl⟩

/-- A judged value comes from one that was read and accepted. -/
theorem judge_eq_ok {verdict : α → Except Complaint β} {value : β} :
    p.judge verdict cursor = .ok value next ↔
      ∃ read, p cursor = .ok read next ∧ verdict read = .ok value := by
  simp only [judge, Outcome.bind_eq_ok]
  constructor
  · rintro ⟨read, between, run, judged⟩
    cases accepted : verdict read with
    | ok result =>
        rw [accepted] at judged
        obtain ⟨rfl, rfl⟩ : result = value ∧ between = next := by simpa using judged
        exact ⟨read, run, accepted⟩
    | error complaint => simp [accepted] at judged
  · rintro ⟨read, run, accepted⟩
    exact ⟨read, next, run, by rw [accepted]⟩

/-- The second alternative succeeds only where the first has failed. -/
theorem orElse_eq_ok {value : α} : p.orElse q cursor = .ok value next ↔
    p cursor = .ok value next ∨
      (∃ fault, p cursor = .fail fault ∧ fault.recoverable = true) ∧ q cursor = .ok value next := by
  unfold orElse
  cases p cursor with
  | ok read between => simp
  | tooDeep => simp
  | fail fault =>
      by_cases recoverable : fault.recoverable = true
      · simp [recoverable]
      · simp [recoverable]

/-- A complaint gives no value. -/
theorem complain_ne_ok (complaint : Complaint) (value : α) :
    (complain complaint : Parser α) cursor ≠ .ok value next := nofun

/-- The first alternative is tried before the others. -/
theorem firstOf_cons (p : Parser α) (ps : List (Parser α)) (complaint : Complaint) :
    firstOf (p :: ps) complaint = p.orElse (firstOf ps complaint) := rfl

/-- A choice that succeeds does so by one of its alternatives. -/
theorem exists_of_firstOf_eq_ok {ps : List (Parser α)} {complaint : Complaint} {value : α}
    (run : firstOf ps complaint cursor = .ok value next) :
    ∃ p ∈ ps, p cursor = .ok value next := by
  induction ps with
  | nil => exact absurd run (complain_ne_ok complaint value)
  | cons p ps ih =>
      rw [firstOf_cons, orElse_eq_ok] at run
      rcases run with run | ⟨-, run⟩
      · exact ⟨p, List.mem_cons_self, run⟩
      · obtain ⟨q, mem, run⟩ := ih run
        exact ⟨q, List.mem_cons_of_mem p mem, run⟩

/-- An item in front of a repetition that complains when there is none. -/
theorem orElse_complain_eq_ok {complaint : Complaint} {value : α} :
    p.orElse (complain complaint) cursor = .ok value next ↔ p cursor = .ok value next := by
  rw [orElse_eq_ok]
  simp [complain_ne_ok]

/-! ### Repetitions -/

/-- The values are read by the item one after another, from a place to a later one. -/
inductive Items (item : Parser α) : Cursor → List α → Cursor → Prop where
  /-- No value is read. -/
  | nil (cursor : Cursor) : Items item cursor [] cursor
  /-- One value is read, and then the others. -/
  | cons {cursor between next : Cursor} {value : α} {values : List α}
    (first : item cursor = .ok value between) (others : Items item between values next) :
    Items item cursor (value :: values) next

/-- Every item of a repetition has the property that a single item has. -/
theorem Items.forall_mem {item : Parser α} {values : List α} {P : α → Prop}
    (items : Items item cursor values next)
    (each : ∀ {cursor next : Cursor} {value : α}, item cursor = .ok value next → P value) :
    ∀ value ∈ values, P value := by
  induction items with
  | nil => simp
  | cons first _ ih => exact List.forall_mem_cons.2 ⟨each first, ih⟩

/-- Items can be split between any two of them, at the place where the first part ends. -/
theorem Items.split {item : Parser α} {before after : List α}
    (items : Items item cursor (before ++ after) next) :
    ∃ between, Items item cursor before between ∧ Items item between after next := by
  induction before generalizing cursor with
  | nil => exact ⟨cursor, .nil cursor, items⟩
  | cons value before ih =>
      cases items with
      | cons first others =>
          obtain ⟨between, inFront, behind⟩ := ih others
          exact ⟨between, .cons first inFront, behind⟩

/-- The values of a chain were read one after another. -/
theorem items_chain (item : Parser α) (cursor : Cursor) :
    Items item cursor (chain item cursor).values (chain item cursor).final := by
  induction cursor using chain.induct item with
  | case1 cursor value next read shorter ih =>
      rw [chain, read]
      simp only [if_pos shorter]
      exact .cons read ih
  | case2 cursor value next read longer =>
      rw [chain, read]
      simp only [if_neg longer]
      exact .cons read (.nil next)
  | case3 cursor fault failed =>
      rw [chain, failed]
      exact .nil cursor
  | case4 cursor deep =>
      rw [chain, deep]
      exact .nil cursor

/-- The values of a repetition were read one after another. -/
theorem items_of_many {item : Parser α} {values : List α}
    (run : many item cursor = .ok values next) : Items item cursor values next := by
  obtain ⟨rfl, rfl⟩ := Chain.toOutcome_eq_ok run
  exact items_chain item cursor

/-- One more value in front of those of a repetition. -/
theorem many_of_ok {item : Parser α} {value : α} (read : item cursor = .ok value next)
    (shorter : next.rest.length < cursor.rest.length) :
    many item cursor = (many item next).bind fun values after => .ok (value :: values) after := by
  unfold many
  rw [chain, read]
  simp only [if_pos shorter]
  exact Chain.toOutcome_cons value next _

/-- A repetition reads nothing where its item fails in a way that may be made up for. -/
theorem many_of_fail {item : Parser α} {fault : Fault} (failed : item cursor = .fail fault)
    (recoverable : fault.recoverable = true) : many item cursor = .ok [] cursor := by
  rw [many, chain, failed]
  exact if_pos recoverable

/-- At least one item has been read by a repetition that needs one. -/
theorem items_of_many1 {item : Parser α} {expected : Expectation} {values : List α}
    (run : many1 item expected cursor = .ok values next) :
    Items item cursor values next ∧ values ≠ [] := by
  simp only [many1, bind_eq_ok, pure_eq_ok, orElse_complain_eq_ok] at run
  obtain ⟨first, between, read, others, _, more, rfl, rfl⟩ := run
  exact ⟨.cons read (items_of_many more), List.cons_ne_nil _ _⟩

/-- One more value in front of those behind separators. -/
theorem behindSeparators_of_ok {item : Parser α} {separator : Parser β} {value : α}
    (read : (separator >>= fun _ => item) cursor = .ok value next)
    (shorter : next.rest.length < cursor.rest.length) :
    behindSeparators item separator cursor
      = (behindSeparators item separator next).bind fun values after =>
          .ok (value :: values) after := by
  rw [behindSeparators, read]
  exact if_pos shorter

/-- There is no value where the separator is refused, or the item behind it. -/
theorem behindSeparators_of_fail {item : Parser α} {separator : Parser β} {fault : Fault}
    (failed : (separator >>= fun _ => item) cursor = .fail fault)
    (recoverable : fault.recoverable = true) :
    behindSeparators item separator cursor = .ok [] cursor := by
  rw [behindSeparators, failed]
  exact if_pos recoverable

/-- Pairs of a separator and an item are read one after another. -/
theorem items_of_behindSeparators {item : Parser α} {separator : Parser β} {values : List α}
    (run : behindSeparators item separator cursor = .ok values next) :
    Items (separator >>= fun _ => item) cursor values next := by
  -- Along the pairs; where none is taken, the run has stopped in front of it.
  induction cursor using behindSeparators.induct item separator generalizing values with
  | case1 cursor value between read shorter ih =>
      rw [behindSeparators_of_ok read shorter, Outcome.bind_eq_ok] at run
      obtain ⟨others, after, run, joined⟩ := run
      obtain ⟨rfl, rfl⟩ := Outcome.ok.inj joined
      exact .cons read (ih run)
  | case2 cursor value between read longer =>
      rw [behindSeparators, read] at run
      simp only [if_neg longer] at run
      obtain ⟨rfl, rfl⟩ := Outcome.ok.inj run
      exact .nil cursor
  | case3 cursor fault failed recoverable =>
      rw [behindSeparators_of_fail failed recoverable] at run
      obtain ⟨rfl, rfl⟩ := Outcome.ok.inj run
      exact .nil cursor
  | case4 cursor fault failed final =>
      rw [behindSeparators, failed] at run
      simp [final] at run
  | case5 cursor deep =>
      rw [behindSeparators, deep] at run
      simp at run

/-- One item has been read first, and then pairs of a separator and an item. -/
theorem items_of_separated1 {item : Parser α} {separator : Parser β} {expected : Expectation}
    {values : List α} (run : separated1 item separator expected cursor = .ok values next) :
    ∃ first between others, item cursor = .ok first between ∧
      Items (separator >>= fun _ => item) between others next ∧ values = first :: others := by
  obtain ⟨first, between, read, run⟩ := bind_eq_ok.1 run
  obtain ⟨others, _, more, last⟩ := bind_eq_ok.1 run
  obtain ⟨rfl, rfl⟩ := pure_eq_ok.1 last
  rw [orElse_complain_eq_ok] at read
  exact ⟨first, between, others, read, items_of_behindSeparators more, rfl⟩

/-! ### What a reader gives -/

/-- Every value that the reader gives has the property. -/
def Gives (p : Parser α) (P : α → Prop) : Prop :=
  ∀ ⦃cursor next : Cursor⦄ ⦃value : α⦄, p cursor = .ok value next → P value

namespace Gives

variable {P : α → Prop} {Q : β → Prop}

/-- A value without any reading has the property that it has. -/
theorem pure {value : α} (holds : P value) : (pure value : Parser α).Gives P := by
  intro cursor next result run
  obtain ⟨rfl, -⟩ := pure_eq_ok.1 run
  exact holds

/-- What is known of the first value may be used for the second one. -/
theorem bind {f : α → Parser β} (first : p.Gives P) (next : ∀ value, P value → (f value).Gives Q) :
    (p >>= f).Gives Q := by
  intro cursor after result run
  obtain ⟨value, between, read, run⟩ := bind_eq_ok.1 run
  exact next value (first read) run

/-- What is read behind any value. -/
theorem behind {f : α → Parser β} (next : ∀ value, (f value).Gives Q) : (p >>= f).Gives Q := by
  intro cursor after result run
  obtain ⟨value, between, -, run⟩ := bind_eq_ok.1 run
  exact next value run

/-- A value that is turned into another has what is known of the other one. -/
theorem map {f : α → β} (first : p.Gives fun value => Q (f value)) : (p.map f).Gives Q := by
  intro cursor next result run
  obtain ⟨value, read, rfl⟩ := map_eq_ok.1 run
  exact first read

/-- An accepted value has what acceptance tells of it. -/
theorem judge {verdict : α → Except Complaint β} (first : p.Gives P)
    (accepted : ∀ value result, P value → verdict value = .ok result → Q result) :
    (p.judge verdict).Gives Q := by
  intro cursor next result run
  obtain ⟨value, read, verdict_eq⟩ := judge_eq_ok.1 run
  exact accepted value result (first read) verdict_eq

/-- Alternatives give what each of them does. -/
theorem firstOf {ps : List (Parser α)} {complaint : Complaint} (each : ∀ p ∈ ps, p.Gives P) :
    (firstOf ps complaint).Gives P := by
  intro cursor next value run
  obtain ⟨p, mem, read⟩ := exists_of_firstOf_eq_ok run
  exact each p mem read

/-- Every value of a repetition has the property of its item. -/
theorem many (item : p.Gives P) : (many p).Gives fun values => ∀ value ∈ values, P value :=
  fun _ _ _ run => (items_of_many run).forall_mem fun read => item read

/-- A repetition that needs an item gives a value at least, and all of them have the property. -/
theorem many1 {expected : Expectation} (item : p.Gives P) :
    (many1 p expected).Gives fun values => values ≠ [] ∧ ∀ value ∈ values, P value := by
  intro cursor next values run
  obtain ⟨items, nonempty⟩ := items_of_many1 run
  exact ⟨nonempty, items.forall_mem fun read => item read⟩

/-- A repetition with separators gives a value at least, and all of them have the property. -/
theorem separated1 {separator : Parser β} {expected : Expectation} (item : p.Gives P) :
    (separated1 p separator expected).Gives fun values =>
      values ≠ [] ∧ ∀ value ∈ values, P value := by
  intro cursor next values run
  obtain ⟨first, between, others, read, items, rfl⟩ := items_of_separated1 run
  refine ⟨List.cons_ne_nil _ _, List.forall_mem_cons.2 ⟨item read, ?_⟩⟩
  exact items.forall_mem fun run => (behind fun _ => item) run

end Gives

end Parser

end MathGrammar
