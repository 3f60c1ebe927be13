import MathGrammar.Fault.Basic

/-! # Parsers

A parser takes a cursor and either gives a value and the cursor after it, or fails at an
offset, or gives up because commands nest too deeply. A trial discards a recoverable fault
and goes on from where it began; the other two outcomes always end the whole run. -/

namespace MathGrammar

/-- A place in a text: its offset, and the text from there on. -/
structure Cursor where
  /-- The number of characters before this place. -/
  offset : Nat
  /-- The characters from this place on. -/
  rest : Text
deriving DecidableEq, Repr

namespace Cursor

/-- The first place of a text. -/
def start (text : Text) : Cursor := ⟨0, text⟩

/-- The place at `offset`, with nothing left when the text ends before it. -/
def ofOffset (text : Text) (offset : Nat) : Cursor := ⟨offset, text.drop offset⟩

/-- The place `count` characters further on. -/
def advance (count : Nat) (cursor : Cursor) : Cursor :=
  ⟨cursor.offset + count, cursor.rest.drop count⟩

/-- Nothing stands in front of the first place. -/
@[simp] theorem offset_start (text : Text) : (start text).offset = 0 := rfl

/-- The whole text stands behind the first place. -/
@[simp] theorem rest_start (text : Text) : (start text).rest = text := rfl

/-- A place that is given by its offset has that offset, even beyond the end. -/
@[simp] theorem offset_ofOffset (text : Text) (offset : Nat) :
    (ofOffset text offset).offset = offset := rfl

/-- Behind a place stands what is left of the text when as many characters are dropped. -/
@[simp] theorem rest_ofOffset (text : Text) (offset : Nat) :
    (ofOffset text offset).rest = text.drop offset := rfl

/-- Advancing moves the offset by as much. -/
@[simp] theorem offset_advance (count : Nat) (cursor : Cursor) :
    (cursor.advance count).offset = cursor.offset + count := rfl

/-- Advancing drops as many characters. -/
@[simp] theorem rest_advance (count : Nat) (cursor : Cursor) :
    (cursor.advance count).rest = cursor.rest.drop count := rfl

/-- Advancing by nothing stays where it is. -/
theorem advance_zero (cursor : Cursor) : cursor.advance 0 = cursor := rfl

end Cursor

/-- How a run ends. -/
inductive Outcome (α : Type) where
  /-- A value was read, and `next` is the place after it. -/
  | ok (value : α) (next : Cursor)
  /-- The text does not match. -/
  | fail (fault : Fault)
  /-- Commands nest more deeply than the limit allows. -/
  | tooDeep
deriving DecidableEq, Repr

namespace Outcome

variable {α β : Type}

/-- Go on from a value that was read. -/
def bind (outcome : Outcome α) (go : α → Cursor → Outcome β) : Outcome β :=
  match outcome with
  | .ok value next => go value next
  | .fail fault => .fail fault
  | .tooDeep => .tooDeep

/-- Change the fault of a failed run. -/
def mapFault (change : Fault → Fault) : Outcome α → Outcome α
  | .fail fault => .fail (change fault)
  | outcome => outcome

/-- From a value the run goes on. -/
@[simp] theorem bind_ok (value : α) (next : Cursor) (go : α → Cursor → Outcome β) :
    (ok value next).bind go = go value next := rfl

/-- A fault is passed on. -/
@[simp] theorem bind_fail (fault : Fault) (go : α → Cursor → Outcome β) :
    (fail fault : Outcome α).bind go = fail fault := rfl

/-- A nesting that is too deep is passed on. -/
@[simp] theorem bind_tooDeep (go : α → Cursor → Outcome β) :
    (tooDeep : Outcome α).bind go = tooDeep := rfl

end Outcome

/-- A reader of values from a place of a text. -/
def Parser (α : Type) := Cursor → Outcome α

namespace Parser

variable {α β : Type}

/-- Readers follow one another: the second starts where the first one ended, with its value. -/
instance : Monad Parser where
  pure value := fun cursor => .ok value cursor
  bind parser next := fun cursor => (parser cursor).bind fun value after => next value after

/-- A value without any reading is given where the run stands. -/
theorem pure_apply (value : α) (cursor : Cursor) :
    (pure value : Parser α) cursor = .ok value cursor := rfl

/-- The second reader goes on from the outcome of the first one. -/
theorem bind_apply (parser : Parser α) (next : α → Parser β) (cursor : Cursor) :
    (parser >>= next) cursor = (parser cursor).bind fun value after => next value after := rfl

/-- The complaint, always. -/
def complain (complaint : Complaint) : Parser α := fun cursor =>
  .fail (complaint.located cursor.offset)

/-- The first parser, or the second from the same place when the first fails recoverably. -/
def orElse (first second : Parser α) : Parser α := fun cursor =>
  match first cursor with
  | .fail fault => if fault.recoverable then second cursor else .fail fault
  | outcome => outcome

/-- The first of the alternatives that does not fail recoverably, or the complaint. -/
def firstOf (alternatives : List (Parser α)) (complaint : Complaint) : Parser α :=
  alternatives.foldr orElse (complain complaint)

/-- Read a value and judge it; a complaint about it is placed where the value began. -/
def judge (parser : Parser α) (verdict : α → Except Complaint β) : Parser β := fun cursor =>
  (parser cursor).bind fun value next =>
    match verdict value with
    | .ok result => .ok result next
    | .error complaint => .fail (complaint.located cursor.offset)

/-- Read a value and apply `f` to it. -/
def map (f : α → β) (parser : Parser α) : Parser β := fun cursor =>
  (parser cursor).bind fun value next => .ok (f value) next

end Parser

end MathGrammar
