import MathGrammar.Proofs.Endings
import MathGrammar.Proofs.Rounds

/-! # Committed productions

A block commits itself to one production after another, up to a place where no production is read.
What happens there decides the whole block: the fault of the production that was tried there, and
the command that stands there, say whether the block is closed, and if not, with which fault it
fails. -/

namespace MathGrammar

namespace Parser

variable {α β : Type} {item : Parser α} {cursor final next : Cursor} {fault : Fault}

/-! ### The end of a chain -/

/-- A fault that stops a chain is that of the item at the end of the chain. -/
theorem chain_stopped (stop : (chain item cursor).stop = .fault fault) :
    item (chain item cursor).final = .fail fault := by
  -- Along the chain: only the item that is tried at its end has failed.
  induction cursor using chain.induct item with
  | case1 cursor value next read shorter ih =>
      rw [chain, read] at stop ⊢
      simp only [if_pos shorter] at stop ⊢
      exact ih stop
  | case2 cursor value next read longer =>
      rw [chain, read] at stop
      simp [longer] at stop
  | case3 cursor other failed =>
      rw [chain, failed] at stop ⊢
      obtain rfl := Stop.fault.inj stop
      exact failed
  | case4 cursor deep =>
      rw [chain, deep] at stop
      simp at stop

/-- Items that are read one after another, up to a place where none is read, make up the chain. -/
theorem RepeatsToEnd.chain_of_items (repeats : item.RepeatsToEnd) {values : List α}
    (items : Items item cursor values final) (stopped : item final = .fail fault) :
    (chain item cursor).values = values ∧ (chain item cursor).final = final ∧
      (chain item cursor).stop = .fault fault := by
  -- On the items, each of which the chain takes up in the same place.
  induction items with
  | nil cursor =>
      rw [repeats.chain_eq, stopped]
      exact ⟨rfl, rfl, rfl⟩
  | cons first others ih =>
      obtain ⟨values_eq, final_eq, stop_eq⟩ := ih stopped
      rw [repeats.chain_eq, first]
      exact ⟨congrArg (_ :: ·) values_eq, final_eq, stop_eq⟩

/-! ### Behind a head -/

/-- What fails behind something that was read fails beyond the place where that began. -/
theorem Advances.offset_lt_of_bind {f : α → Parser β} {value : α} {least more : Nat}
    (first : item.Advances (least + 1)) (others : (f value).Advances more)
    (read : item cursor = .ok value next) (failed : (item >>= f) cursor = .fail fault) :
    cursor.offset < fault.offset := by
  have behind : cursor.offset < next.offset := (first.lt read).1
  have bounded := others next
  rw [bind_apply, read, Outcome.bind_ok] at failed
  rw [failed] at bounded
  cases bounded with
  | fail ahead => exact Nat.lt_of_lt_of_le behind ahead.1

variable {limit : Nat} {read : Command}

/-- A production that got past its head fails beyond its start, unless it misses its label. -/
theorem offset_lt_of_production (here : command limit cursor = .ok read next)
    (named : read.name = ['p', 'r', 'o', 'd', 'u', 'c', 't', 'i', 'o', 'n'])
    (failed : production limit cursor = .fail fault) (labelled : fault.kind ≠ .missingArgument) :
    cursor.offset < fault.offset := by
  have head : commandNamed limit .unexpectedToken
      ['p', 'r', 'o', 'd', 'u', 'c', 't', 'i', 'o', 'n'] cursor = .ok read next :=
    commandNamed_eq_ok_iff.2 ⟨here, named⟩
  rw [production_eq_bind] at failed
  -- The label is looked for at the head itself; everything else is read behind it.
  cases args_eq : read.args with
  | nil =>
      have missing : productionHead limit cursor
          = .fail ⟨⟨.missingArgument, .productionLabel⟩, cursor.offset⟩ :=
        judge_of_error head (by rw [args_eq])
      rw [bind_apply, missing] at failed
      obtain rfl := Outcome.fail.inj failed
      exact absurd rfl labelled
  | cons arg args =>
      have labels : productionHead limit cursor = .ok arg.name next :=
        judge_eq_ok.2 ⟨read, head, by rw [args_eq]⟩
      exact (advances_productionHead limit).offset_lt_of_bind
        (advances_productionTail limit arg.name) labels failed

/-! ### The closing command -/

/-- The end of a block is read wherever a command of that name stands. -/
theorem blockEnd_eq_ok_iff : (∃ after, blockEnd limit cursor = .ok () after) ↔
    ∃ closing next, command limit cursor = .ok closing next ∧ closing.name = ['e', 'n', 'd'] := by
  constructor
  · rintro ⟨after, run⟩
    obtain ⟨closing, next, run, -⟩ := bind_eq_ok.1 run
    exact ⟨closing, next, commandNamed_eq_ok_iff.1 run⟩
  · rintro ⟨closing, next, here, named⟩
    refine ⟨next.skip .separators, bind_eq_ok.2 ⟨closing, next, ?_, rfl⟩⟩
    exact commandNamed_eq_ok_iff.2 ⟨here, named⟩

/-- A command of another name does not close a block. -/
theorem blockEnd_of_ne (here : command limit cursor = .ok read next)
    (other : read.name ≠ ['e', 'n', 'd']) : blockEnd limit cursor
      = .fail ⟨⟨.unexpectedToken, .commandNamed ['e', 'n', 'd']⟩, cursor.offset⟩ := by
  have head : commandNamed limit .unexpectedToken ['e', 'n', 'd'] cursor
      = .fail ⟨⟨.unexpectedToken, .commandNamed ['e', 'n', 'd']⟩, cursor.offset⟩ :=
    judge_of_error here (if_neg other)
  unfold blockEnd
  rw [bind_apply, head, Outcome.bind_fail]

end Parser

/-! ### Committed productions -/

/-- From the place behind the opening command on, the productions are read one after another, up to
a place at which reading another one fails. -/
structure Committed (limit : Nat) (body : Cursor) (productions : List Production) (final : Cursor)
    (fault : Fault) : Prop where
  /-- The productions that are read. -/
  items : Parser.Items (Parser.production limit) body productions final
  /-- The one that is not. -/
  stopped : Parser.production limit final = .fail fault

/-- The fault when it lies beyond the place, and otherwise the other one. -/
def Fault.beyondOr (fault : Fault) (place : Cursor) (other : Fault) : Fault :=
  if place.offset < fault.offset then fault else other

namespace Committed

variable {limit : Nat} {body final : Cursor} {productions : List Production} {fault : Fault}

/-- Committed productions are the chain that the block reads, with the fault that stopped it. -/
theorem chain_eq (committed : Committed limit body productions final fault) :
    (Parser.chain (Parser.production limit) body).values = productions ∧
      (Parser.chain (Parser.production limit) body).final = final ∧
      (Parser.chain (Parser.production limit) body).stop = .fault fault :=
  (Parser.advances_production limit).repeatsToEnd.chain_of_items committed.items committed.stopped

/-- Unless a production nests too deeply, there is a place where no further one is read. -/
theorem exists_of_stop_ne_tooDeep
    (shallow : (Parser.chain (Parser.production limit) body).stop ≠ .tooDeep) :
    ∃ productions final fault, Committed limit body productions final fault := by
  have items := Parser.items_chain (Parser.production limit) body
  cases stop_eq : (Parser.chain (Parser.production limit) body).stop with
  | fault fault => exact ⟨_, _, fault, items, Parser.chain_stopped stop_eq⟩
  | tooDeep => exact absurd stop_eq shallow
  | stalled =>
      have repeats := (Parser.advances_production limit).repeatsToEnd
      exact absurd stop_eq (repeats.not_stalled body)

/-- The fault of the production that was tried last, and the command in its place, decide the
block. -/
theorem blockBody_eq (committed : Committed limit body productions final fault) :
    Parser.blockBody limit body =
      if fault.recoverable = false then .fail fault
      else if productions = [] then
        .fail (fault.beyondOr final ⟨⟨.emptyMatch, .someProduction⟩, final.offset⟩)
      else ((Parser.blockEnd limit final).mapFault (fault.beyondOr final)).bind fun _ next =>
        .ok ⟨productions⟩ next := by
  obtain ⟨values_eq, final_eq, stop_eq⟩ := committed.chain_eq
  -- All that closing the block asks the chain for is given by what is committed.
  have deeper : (Parser.chain (Parser.production limit) body).deeperFault
      = fault.beyondOr final := by
    funext other
    unfold Chain.deeperFault Fault.beyondOr
    rw [stop_eq, final_eq]
  have empty_iff : (Parser.chain (Parser.production limit) body).items.isEmpty = true ↔
      productions = [] := by
    rw [← values_eq, Chain.values, List.isEmpty_iff, List.map_eq_nil_iff]
  simp only [Parser.blockBody, Parser.closeBlock, Chain.toOutcome, stop_eq, values_eq, final_eq,
    deeper, empty_iff]
  by_cases recoverable : fault.recoverable = true
  · simp only [recoverable]
    rfl
  · simp only [Bool.not_eq_true] at recoverable
    simp only [recoverable]
    rfl

/-- A fault in front of which another one is put lies no earlier than the place they are compared
with. -/
theorem offset_le_beyondOr {other : Fault} (le : final.offset ≤ other.offset) :
    final.offset ≤ (fault.beyondOr final other).offset := by
  unfold Fault.beyondOr
  by_cases beyond : final.offset < fault.offset
  · rw [if_pos beyond]
    exact Nat.le_of_lt beyond
  · rw [if_neg beyond]
    exact le

/-- The block is read when the production that was tried last does not miss an argument, another one
was read before it, and the block is closed there. -/
theorem blockBody_eq_ok_iff (committed : Committed limit body productions final fault)
    {block : MathBlock} {next : Cursor} : Parser.blockBody limit body = .ok block next ↔
      fault.kind ≠ .missingArgument ∧ productions ≠ [] ∧
        Parser.blockEnd limit final = .ok () next ∧ block = ⟨productions⟩ := by
  rw [committed.blockBody_eq]
  by_cases missing : fault.kind = .missingArgument
  · rw [if_pos (Fault.recoverable_eq_false_iff.2 missing)]
    simp [missing]
  rw [if_neg (mt Fault.recoverable_eq_false_iff.1 missing)]
  by_cases none : productions = []
  · rw [if_pos none]
    simp [none]
  rw [if_neg none]
  cases Parser.blockEnd limit final with
  | ok value after => simp [Outcome.mapFault, missing, none, and_comm, eq_comm]
  | fail other => simp [Outcome.mapFault]
  | tooDeep => simp [Outcome.mapFault]

/-- A production that got past its head and broke off is reported, whatever stands there. -/
theorem blockBody_eq_fail (committed : Committed limit body productions final fault)
    {read : Command} {next : Cursor} (here : Parser.command limit final = .ok read next)
    (named : read.name = ['p', 'r', 'o', 'd', 'u', 'c', 't', 'i', 'o', 'n']) :
    Parser.blockBody limit body = .fail fault := by
  rw [committed.blockBody_eq]
  -- A missing label is reported at once, and any other fault lies beyond the head.
  by_cases missing : fault.kind = .missingArgument
  · exact if_pos (Fault.recoverable_eq_false_iff.2 missing)
  rw [if_neg (mt Fault.recoverable_eq_false_iff.1 missing)]
  have beyond : ∀ other, fault.beyondOr final other = fault := fun _ =>
    if_pos (Parser.offset_lt_of_production here named committed.stopped missing)
  by_cases none : productions = []
  · rw [if_pos none, beyond]
  · -- The command that opens a production does not close the block.
    have unclosed : Parser.blockEnd limit final
        = .fail ⟨⟨.unexpectedToken, .commandNamed ['e', 'n', 'd']⟩, final.offset⟩ :=
      Parser.blockEnd_of_ne here (by rw [named]; decide)
    rw [if_neg none, unclosed, Outcome.mapFault, beyond, Outcome.bind_fail]

/-- Nothing in front of the last committed production is complained about any more. -/
theorem offset_le_of_fail (committed : Committed limit body productions final fault)
    {error : Fault} (failed : Parser.blockBody limit body = .fail error) :
    final.offset ≤ error.offset := by
  have ahead : final.offset ≤ fault.offset := by
    have bounded := Parser.advances_production limit final
    rw [committed.stopped] at bounded
    cases bounded with
    | fail ahead => exact ahead.1
  rw [committed.blockBody_eq] at failed
  by_cases missing : fault.recoverable = false
  · rw [if_pos missing] at failed
    obtain rfl := Outcome.fail.inj failed
    exact ahead
  rw [if_neg missing] at failed
  by_cases none : productions = []
  · rw [if_pos none] at failed
    obtain rfl := Outcome.fail.inj failed
    exact offset_le_beyondOr (Nat.le_refl _)
  rw [if_neg none] at failed
  -- What is left is a command that does not close the block, and it is read from there on.
  have bounded := Parser.advances_blockEnd limit final
  generalize Parser.blockEnd limit final = outcome at bounded failed
  cases bounded with
  | ok value => simp [Outcome.mapFault] at failed
  | fail notBefore =>
      obtain rfl := Outcome.fail.inj failed
      exact offset_le_beyondOr notBefore.1
  | tooDeep => simp [Outcome.mapFault] at failed

end Committed

/-! ### The main result -/

/-- **Committed productions decide a block.** Behind the opening command of a block that does not
nest too deeply, productions are read up to a place where another one fails. The block is read when
that fault is not a missing argument, at least one production was read, and a command `end` stands
at the place; then these are its productions. When a command `production` stands there, the block
fails with the very fault of that production. Every fault of the block lies at that place or beyond
it. -/
theorem mathBlock_decided_by_committed (limit : Nat) (start body : Cursor)
    (opened : Parser.blockHead limit start = .ok () body)
    (shallow : Parser.mathBlock limit start ≠ .tooDeep) :
    (∃ productions final fault, Committed limit body productions final fault) ∧
    ∀ productions final fault, Committed limit body productions final fault →
      ((∃ block next, Parser.mathBlock limit start = .ok block next) ↔
        fault.kind ≠ .missingArgument ∧ productions ≠ [] ∧
          ∃ closing next, Parser.command limit final = .ok closing next ∧
            closing.name = ['e', 'n', 'd']) ∧
      (∀ block next, Parser.mathBlock limit start = .ok block next →
        block.productions = productions) ∧
      ((∃ head next, Parser.command limit final = .ok head next ∧
          head.name = ['p', 'r', 'o', 'd', 'u', 'c', 't', 'i', 'o', 'n']) →
        Parser.mathBlock limit start = .fail fault) ∧
      (∀ error, Parser.mathBlock limit start = .fail error → final.offset ≤ error.offset) := by
  have mathBlock_eq : Parser.mathBlock limit start = Parser.blockBody limit body := by
    unfold Parser.mathBlock
    rw [Parser.bind_apply, opened, Outcome.bind_ok]
  rw [mathBlock_eq] at shallow ⊢
  constructor
  · refine Committed.exists_of_stop_ne_tooDeep fun deep => shallow ?_
    simp only [Parser.blockBody, Chain.toOutcome, deep]
  · intro productions final fault committed
    refine ⟨?_, ?_, ?_, ?_⟩
    · rw [← Parser.blockEnd_eq_ok_iff]
      simp only [committed.blockBody_eq_ok_iff]
      constructor
      · rintro ⟨block, next, mild, nonempty, closed, -⟩
        exact ⟨mild, nonempty, next, closed⟩
      · rintro ⟨mild, nonempty, next, closed⟩
        exact ⟨⟨productions⟩, next, mild, nonempty, closed, rfl⟩
    · intro block next run
      obtain ⟨-, -, -, rfl⟩ := committed.blockBody_eq_ok_iff.1 run
      rfl
    · rintro ⟨head, next, here, named⟩
      exact committed.blockBody_eq_fail here named
    · intro error failed
      exact committed.offset_le_of_fail failed

/-- The second production has no first case. The block is closed behind it, but what is complained
about is the missing case. -/
theorem mathBlock_reports_broken_production :
    let text : Text := "\\begin\x7ba\x7d\\production\x7bp\x7d\\a::=\\b\\\\".toList ++
      "\\production\x7bq\x7d\\c::=|\\d\\\\\\end\x7ba\x7d".toList
    let first : Production := ⟨['p'], [⟨['a'], none⟩], .union [[.nonterminal ⟨['b'], none⟩]]⟩
    let fault : Fault := ⟨⟨.unclassifiable, .rightHandSide⟩, 51⟩
    Parser.blockHead nestingLimit (.start text) = .ok () (.ofOffset text 9) ∧
      Parser.mathBlock nestingLimit (.start text) ≠ .tooDeep ∧
      Committed nestingLimit (.ofOffset text 9) [first] (.ofOffset text 32) fault ∧
      Parser.mathBlock nestingLimit (.start text) = .fail fault := by
  intro text first fault
  have opened : Parser.blockHead nestingLimit (.start text) = .ok () (.ofOffset text 9) := by
    decide +kernel
  have shallow : Parser.mathBlock nestingLimit (.start text) ≠ .tooDeep := by
    decide +kernel
  have committed : Committed nestingLimit (.ofOffset text 9) [first] (.ofOffset text 32) fault :=
    ⟨.cons (by decide +kernel) (.nil _), by decide +kernel⟩
  have here : Parser.command nestingLimit (.ofOffset text 32)
      = .ok ⟨['p', 'r', 'o', 'd', 'u', 'c', 't', 'i', 'o', 'n'], [], [.literal ['q']], none⟩
        (.ofOffset text 46) := by
    decide +kernel
  obtain ⟨-, decided⟩ :=
    mathBlock_decided_by_committed nestingLimit (.start text) (.ofOffset text 9) opened shallow
  obtain ⟨-, -, reported, -⟩ := decided [first] (.ofOffset text 32) fault committed
  exact ⟨opened, shallow, committed, reported ⟨_, _, here, rfl⟩⟩

end MathGrammar
