import MathGrammar.Construct
import MathGrammar.Proofs.Endings

/-! # Recorded runs

A reader may keep a record of the calls that it makes on its way: which readers it called, at which
places, and how the calls ended. The record and the outcome come from one run, in which a reader is
called exactly when the outcome of what came before leads there. -/

namespace MathGrammar

variable {α β : Type}

/-! ### Calls -/

/-- The readers whose calls are recorded: those of the constructs, and those of their parts that
read commands. Spacing, single signs and the parts of a command are read without a call. -/
inductive Callee where
  /-- A construct. -/
  | construct (construct : Construct)
  /-- The value of a record field. -/
  | fieldValue
  /-- A record field. -/
  | recordField
  /-- One side of a bar. -/
  | unionCase
  /-- A symbol on the left-hand side. -/
  | definedSymbol
  /-- The command that begins a production, with its label. -/
  | productionHead
  /-- The command that opens a block. -/
  | blockHead
  /-- The command that closes a block. -/
  | blockEnd
deriving DecidableEq, Repr

/-- A call: of which reader, at which place, and how it ended. -/
structure Call where
  /-- The reader that was called. -/
  callee : Callee
  /-- Where it started. -/
  place : Cursor
  /-- How it ended. -/
  ending : Outcome Unit
deriving DecidableEq, Repr

/-- The readers that ask for an argument: those of symbol names and of production labels. -/
def Callee.askingForArgument : List Callee :=
  [.construct .terminal, .construct .nonterminal, .productionHead]

/-- Whether the call can be the one in which such an ending arose: a reader missed the argument that
it asks for, or a command was one too many. -/
def Call.raises (call : Call) : Bool :=
  match call.ending with
  | .ok _ _ => false
  | .fail _ => Callee.askingForArgument.contains call.callee
  | .tooDeep => call.callee = .construct .command

/-! ### Records -/

/-- A run with the calls that it made. -/
structure Recorded (α : Type) where
  /-- The calls, in their order. -/
  calls : List Call
  /-- How the run ended. -/
  outcome : Outcome α

namespace Recorded

/-- A run that called nothing. -/
def silent (outcome : Outcome α) : Recorded α := ⟨[], outcome⟩

/-- The run of a reader is itself a call, in front of those that it made. -/
def called (callee : Callee) (place : Cursor) (run : Recorded α) : Recorded α :=
  ⟨⟨callee, place, run.outcome.ending⟩ :: run.calls, run.outcome⟩

/-- Make something of the value that was read, without a further call. -/
def andThen (run : Recorded α) (go : α → Cursor → Outcome β) : Recorded β :=
  ⟨run.calls, run.outcome.bind go⟩

/-- Change the fault of a failed run. -/
def mapFault (change : Fault → Fault) (run : Recorded α) : Recorded α :=
  ⟨run.calls, run.outcome.mapFault change⟩

/-- Go on from the value that was read, and call what is called there. -/
def bind (run : Recorded α) (go : α → Cursor → Recorded β) : Recorded β :=
  match run.outcome with
  | .ok value next => ⟨run.calls ++ (go value next).calls, (go value next).outcome⟩
  | .fail fault => ⟨run.calls, .fail fault⟩
  | .tooDeep => ⟨run.calls, .tooDeep⟩

/-- Where the run may be made up for, the second one is made as well. -/
def orElse (run second : Recorded α) : Recorded α :=
  match run.outcome with
  | .fail fault =>
    if fault.recoverable then ⟨run.calls ++ second.calls, second.outcome⟩
    else ⟨run.calls, .fail fault⟩
  | outcome => ⟨run.calls, outcome⟩

/-- The chain of the items from a place, with the calls of all of them, the last of which is the one
that did not lead on. -/
def chain (item : Cursor → Recorded α) (cursor : Cursor) : List Call × Chain α :=
  match (item cursor).outcome with
  | .ok value next =>
    if next.rest.length < cursor.rest.length then
      ((item cursor).calls ++ (chain item next).1, (chain item next).2.cons value next)
    else
      ((item cursor).calls, ⟨[(value, next)], next, .stalled⟩)
  | .fail fault => ((item cursor).calls, ⟨[], cursor, .fault fault⟩)
  | .tooDeep => ((item cursor).calls, ⟨[], cursor, .tooDeep⟩)
termination_by cursor.rest.length

/-- The items behind separators, with the calls of all pairs that were tried. -/
def behindSeparators (pair : Cursor → Recorded α) (cursor : Cursor) : Recorded (List α) :=
  match (pair cursor).outcome with
  | .ok value next =>
    if next.rest.length < cursor.rest.length then
      ⟨(pair cursor).calls ++ (behindSeparators pair next).calls,
        (behindSeparators pair next).outcome.bind fun values last => .ok (value :: values) last⟩
    else
      ⟨(pair cursor).calls, .ok [] cursor⟩
  | .fail fault =>
    ⟨(pair cursor).calls, if fault.recoverable then .ok [] cursor else .fail fault⟩
  | .tooDeep => ⟨(pair cursor).calls, .tooDeep⟩
termination_by cursor.rest.length

/-! ### Sequences and trials -/

/-- Making something of the value is going on from it. -/
theorem outcome_andThen (run : Recorded α) (go : α → Cursor → Outcome β) :
    (run.andThen go).outcome = run.outcome.bind go := rfl

/-- The calls of a sequence do not change how it ends. -/
theorem outcome_bind (run : Recorded α) (go : α → Cursor → Recorded β) :
    (run.bind go).outcome = run.outcome.bind fun value next => (go value next).outcome := by
  unfold bind
  cases run.outcome <;> rfl

/-- A call of a sequence is one of the first reader, or one behind the value of that. -/
theorem mem_calls_bind {run : Recorded α} {go : α → Cursor → Recorded β} {call : Call} :
    call ∈ (run.bind go).calls ↔ call ∈ run.calls ∨
      ∃ value next, run.outcome = .ok value next ∧ call ∈ (go value next).calls := by
  unfold bind
  cases run.outcome with
  | ok value next => simp [and_assoc]
  | fail fault => simp
  | tooDeep => simp

/-- A call of a trial is one of the first alternative, or one of the second where that is tried. -/
theorem mem_calls_orElse {run second : Recorded α} {call : Call} :
    call ∈ (run.orElse second).calls ↔ call ∈ run.calls ∨
      (∃ fault, run.outcome = .fail fault ∧ fault.recoverable = true) ∧ call ∈ second.calls := by
  unfold orElse
  cases run.outcome with
  | ok value next => simp
  | fail fault =>
      by_cases recoverable : fault.recoverable = true
      · simp [recoverable]
      · simp [recoverable]
  | tooDeep => simp

/-! ### Repetitions -/

/-- The calls of the first item come first, and behind an item that leads on those of the others. -/
theorem mem_fst_chain {item : Cursor → Recorded α} {cursor : Cursor} {call : Call} :
    call ∈ (chain item cursor).1 ↔ call ∈ (item cursor).calls ∨
      ∃ value next, (item cursor).outcome = .ok value next ∧
        next.rest.length < cursor.rest.length ∧ call ∈ (chain item next).1 := by
  rw [chain]
  cases (item cursor).outcome with
  | ok value next =>
      by_cases shorter : next.rest.length < cursor.rest.length
      · simp [shorter, and_assoc]
      · simp [shorter, and_assoc]
  | fail fault => simp
  | tooDeep => simp

/-- The pairs of separators and items that are tried are those of a chain of them. -/
theorem calls_behindSeparators (pair : Cursor → Recorded α) (cursor : Cursor) :
    (behindSeparators pair cursor).calls = (chain pair cursor).1 := by
  induction cursor using chain.induct pair with
  | case1 cursor value next read shorter ih =>
      rw [behindSeparators, chain, read]
      simp only [if_pos shorter, ih]
  | case2 cursor value next read longer =>
      rw [behindSeparators, chain, read]
      simp only [if_neg longer]
  | case3 cursor fault failed => rw [behindSeparators, chain, failed]
  | case4 cursor deep => rw [behindSeparators, chain, deep]

end Recorded

end MathGrammar
