import MathGrammar.Parser.Basic

/-! # Chains of items

Repetition follows the maximal chain of items that succeed one after another. The chain also
records where each item ended and what stopped it, so that a caller can tell an ordinary end
from a fault that must not be discarded. -/

namespace MathGrammar

/-- What stopped a chain. -/
inductive Stop where
  /-- The next item failed. -/
  | fault (fault : Fault)
  /-- The next item nests too deeply. -/
  | tooDeep
  /-- The last item consumed nothing, and would be read for ever. -/
  | stalled
deriving DecidableEq, Repr

/-- Items that succeeded one after another. -/
structure Chain (α : Type) where
  /-- Each item with the place after it. -/
  items : List (α × Cursor)
  /-- The place after the last item. -/
  final : Cursor
  /-- What happened there. -/
  stop : Stop
deriving DecidableEq, Repr

namespace Chain

variable {α : Type}

/-- The chain with one more item in front. -/
def cons (value : α) (next : Cursor) (chain : Chain α) : Chain α :=
  { chain with items := (value, next) :: chain.items }

/-- The values of the items. -/
def values (chain : Chain α) : List α := chain.items.map Prod.fst

/-- The items as the result of a repetition: only a recoverable stop ends one quietly. -/
def toOutcome (chain : Chain α) : Outcome (List α) :=
  match chain.stop with
  | .fault fault =>
    if fault.recoverable then .ok chain.values chain.final else .fail fault
  | .tooDeep => .tooDeep
  | .stalled => .ok chain.values chain.final

end Chain

namespace Parser

variable {α β : Type}

/-- The maximal chain of items from a place. An item that consumes nothing is kept and ends
the chain. -/
def chain (item : Parser α) (cursor : Cursor) : Chain α :=
  match item cursor with
  | .ok value next =>
    if next.rest.length < cursor.rest.length then
      (chain item next).cons value next
    else
      ⟨[(value, next)], next, .stalled⟩
  | .fail fault => ⟨[], cursor, .fault fault⟩
  | .tooDeep => ⟨[], cursor, .tooDeep⟩
termination_by cursor.rest.length

/-- As many items as there are, perhaps none. -/
def many (item : Parser α) : Parser (List α) := fun cursor => (chain item cursor).toOutcome

/-- One item or more. -/
def many1 (item : Parser α) (expected : Expectation) : Parser (List α) := do
  let first ← item.orElse (complain ⟨.emptyMatch, expected⟩)
  let more ← many item
  return first :: more

/-- Items with a separator before each, as many as there are, perhaps none. A separator that no item
follows is left unread. So is a separator that takes up nothing together with its item, as the two
would be read for ever. -/
def behindSeparators (item : Parser α) (separator : Parser β) : Parser (List α) := fun cursor =>
  match (separator >>= fun _ => item) cursor with
  | .ok value next =>
    if next.rest.length < cursor.rest.length then
      (behindSeparators item separator next).bind fun values last => .ok (value :: values) last
    else
      .ok [] cursor
  | .fail fault => if fault.recoverable then .ok [] cursor else .fail fault
  | .tooDeep => .tooDeep
termination_by cursor => cursor.rest.length

/-- One item or more, with a separator before each item but the first. -/
def separated1 (item : Parser α) (separator : Parser β) (expected : Expectation) :
    Parser (List α) := do
  let first ← item.orElse (complain ⟨.emptyMatch, expected⟩)
  let more ← behindSeparators item separator
  return first :: more

end Parser

end MathGrammar
