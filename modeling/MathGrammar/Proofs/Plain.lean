import MathGrammar.Proofs.Consumption
import MathGrammar.Proofs.Text
import MathGrammar.Symbol.Parser

/-! # Plain stretches of text

A stretch of text is plain when neither escape command stands in it, so that every symbol in it is
named by its own command. What a reader yields there is stated by a condition on the place where it
starts and one on its result, which compose along the combinators. The stretch ends where the whole
run does, and a reader inside the run therefore stops before that end. -/

namespace MathGrammar

/-- Whether a command of exactly the given name stands in the text: a backslash and the name, with
neither a letter nor a digit behind it. -/
def Text.hasCommand : (text name : Text) → Bool
  | [], _ => false
  | c :: rest, name =>
    (c == '\\' && rest.takeWhile Char.isAlphanum == name) || hasCommand rest name

/-- Behind the first part of a text there are no more commands than in all of it. -/
theorem Text.hasCommand_append_eq_false {name before after : Text}
    (none : (before ++ after).hasCommand name = false) : after.hasCommand name = false := by
  induction before with
  | nil => exact none
  | cons c before ih =>
      rw [List.cons_append, hasCommand, Bool.or_eq_false_iff] at none
      exact ih none.2

/-- From the place up to the text `stop` neither escape command stands in the text. -/
def Cursor.Plain (stop : Text) (cursor : Cursor) : Prop :=
  ∃ before, cursor.rest = before ++ stop ∧ before.hasCommand terminalEscape = false ∧
    before.hasCommand nonterminalEscape = false

variable {stop : Text} {cursor next : Cursor} {α β : Type}

/-- A stretch is plain from any later place on. -/
theorem Cursor.Plain.of_suffix (plain : cursor.Plain stop) (later : next.rest <:+ cursor.rest)
    (ends : stop <:+ next.rest) : next.Plain stop := by
  obtain ⟨before, rest_eq, noTerminal, noNonterminal⟩ := plain
  obtain ⟨taken, taken_eq⟩ := later
  obtain ⟨remaining, remaining_eq⟩ := ends
  rw [rest_eq, ← remaining_eq, ← List.append_assoc] at taken_eq
  obtain rfl := List.append_cancel_right taken_eq
  exact ⟨remaining, remaining_eq.symm, Text.hasCommand_append_eq_false noTerminal,
    Text.hasCommand_append_eq_false noNonterminal⟩

namespace Parser

/-- From a place in a plain stretch with the first condition, a success that does not leave the
stretch ends with the second one. -/
def Yields (stop : Text) (Pre : Cursor → Prop) (p : Parser α) (Post : α → Cursor → Prop) : Prop :=
  ∀ ⦃cursor next : Cursor⦄ ⦃value : α⦄, p cursor = .ok value next → next.rest <:+ cursor.rest ∧
    (cursor.Plain stop → stop <:+ next.rest → Pre cursor → Post value next)

variable {Pre : Cursor → Prop} {Mid Post : α → Cursor → Prop} {p q : Parser α}

/-! ### Combinators -/

/-- A value without any reading yields what is known of it there. -/
theorem Yields.pure {value : α} (post : ∀ cursor, Pre cursor → Post value cursor) :
    (pure value : Parser α).Yields stop Pre Post := by
  intro cursor next result run
  obtain ⟨rfl, rfl⟩ := pure_eq_ok.1 run
  exact ⟨List.suffix_rfl, fun _ _ pre => post cursor pre⟩

/-- The second reader starts in the same stretch, which goes on to the end of the whole run. -/
theorem Yields.bind {f : α → Parser β} {Last : β → Cursor → Prop} (first : p.Yields stop Pre Mid)
    (second : ∀ value, (f value).Yields stop (Mid value) Last) :
    (p >>= f).Yields stop Pre Last := by
  intro cursor next result run
  obtain ⟨value, between, read, run⟩ := bind_eq_ok.1 run
  obtain ⟨suffix, mid⟩ := first read
  obtain ⟨suffix', last⟩ := second value run
  refine ⟨suffix'.trans suffix, fun plain ends pre => ?_⟩
  have endsBetween := ends.trans suffix'
  exact last (plain.of_suffix suffix endsBetween) ends (mid plain endsBetween pre)

/-- What does not depend on the place is kept. -/
theorem Yields.frame {Fact : Prop} (yields : p.Yields stop Pre Post) :
    p.Yields stop (fun cursor => Fact ∧ Pre cursor) fun value cursor =>
      Fact ∧ Post value cursor := by
  intro cursor next value run
  obtain ⟨suffix, post⟩ := yields run
  exact ⟨suffix, fun plain ends pre => ⟨pre.1, post plain ends pre.2⟩⟩

/-- What is accepted of a value is yielded by the reader whose value is judged. -/
theorem Yields.judge {verdict : α → Except Complaint β} {Last : β → Cursor → Prop}
    (yields : p.Yields stop Pre Mid)
    (accepted : ∀ value result cursor, verdict value = .ok result → Mid value cursor →
      Last result cursor) : (p.judge verdict).Yields stop Pre Last := by
  intro cursor next result run
  obtain ⟨value, read, verdict_eq⟩ := judge_eq_ok.1 run
  obtain ⟨suffix, mid⟩ := yields read
  exact ⟨suffix, fun plain ends pre => accepted _ _ _ verdict_eq (mid plain ends pre)⟩

/-- A value that is turned into another yields what is known of the other one. -/
theorem Yields.map {f : α → β} {Last : β → Cursor → Prop}
    (yields : p.Yields stop Pre fun value => Last (f value)) : (p.map f).Yields stop Pre Last := by
  intro cursor next result run
  obtain ⟨value, read, rfl⟩ := map_eq_ok.1 run
  exact yields read

/-- Alternatives yield what each of them does. -/
theorem Yields.firstOf {ps : List (Parser α)} {complaint : Complaint}
    (each : ∀ p ∈ ps, p.Yields stop Pre Post) :
    (firstOf ps complaint).Yields stop Pre Post := by
  intro cursor next value run
  obtain ⟨p, mem, read⟩ := exists_of_firstOf_eq_ok run
  exact each p mem read

/-- Items that lead from one place of the kind they start at to another one. -/
theorem Yields.items {Good : α → Prop}
    (item : p.Yields stop Pre fun value cursor => Good value ∧ Pre cursor) {values : List α}
    (items : Items p cursor values next) : next.rest <:+ cursor.rest ∧
      (cursor.Plain stop → stop <:+ next.rest → Pre cursor → (∀ value ∈ values, Good value) ∧
        Pre next) := by
  induction items with
  | nil cursor => exact ⟨List.suffix_rfl, fun _ _ pre => ⟨by simp, pre⟩⟩
  | cons read _ ih =>
      obtain ⟨suffix, first⟩ := item read
      obtain ⟨suffix', others⟩ := ih
      refine ⟨suffix'.trans suffix, fun plain ends pre => ?_⟩
      have endsBetween := ends.trans suffix'
      obtain ⟨good, preBetween⟩ := first plain endsBetween pre
      obtain ⟨goodOthers, preLast⟩ := others (plain.of_suffix suffix endsBetween) ends preBetween
      exact ⟨List.forall_mem_cons.2 ⟨good, goodOthers⟩, preLast⟩

/-- A repetition yields good values when each item does and leaves a place for the next one. -/
theorem Yields.many {Good : α → Prop}
    (item : p.Yields stop Pre fun value cursor => Good value ∧ Pre cursor) :
    (many p).Yields stop Pre fun values cursor => (∀ value ∈ values, Good value) ∧ Pre cursor :=
  fun _ _ _ run => item.items (items_of_many run)

/-- The first item may start at a place of another kind than those behind separators. -/
theorem Yields.separated1 {separator : Parser β} {expected : Expectation} {Good : α → Prop}
    {Between After : Cursor → Prop}
    (item : p.Yields stop Pre fun value cursor => Good value ∧ After cursor)
    (separated : separator.Yields stop After fun _ => Between)
    (other : p.Yields stop Between fun value cursor => Good value ∧ After cursor) :
    (separated1 p separator expected).Yields stop Pre fun values cursor =>
      values ≠ [] ∧ (∀ value ∈ values, Good value) ∧ After cursor := by
  intro cursor next values run
  obtain ⟨first, between, others, read, items, rfl⟩ := items_of_separated1 run
  obtain ⟨suffix, firstYields⟩ := item read
  obtain ⟨suffix', othersYield⟩ := (separated.bind fun _ => other).items items
  refine ⟨suffix'.trans suffix, fun plain ends pre => ?_⟩
  have endsBetween := ends.trans suffix'
  obtain ⟨good, after⟩ := firstYields plain endsBetween pre
  obtain ⟨goodOthers, last⟩ := othersYield (plain.of_suffix suffix endsBetween) ends after
  exact ⟨List.cons_ne_nil _ _, List.forall_mem_cons.2 ⟨good, goodOthers⟩, last⟩

end Parser

end MathGrammar
