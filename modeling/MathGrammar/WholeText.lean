import MathGrammar.Production.Block

/-! # Whole texts

Readers as functions of a whole text: from its start, where too deep a nesting is a fault of the
text, or from an offset. -/

namespace MathGrammar

/-- How many commands may be open at once. The number stands for a limit on the frames of the call
stack, of which a command takes the same number wherever it stands. A block is read one frame
further in than a production, and reaches that limit one frame earlier than the production alone; so
what is said about reading is said for every limit, or for every positive one, and this one is put
in only where whole texts are read. -/
def nestingLimit : Nat := 200

/-- The fault of a text that nests too deeply, wherever it does. -/
def Fault.nesting : Fault := ⟨⟨.unexpectedToken, .shallowerNesting⟩, 0⟩

/-- Read a text from its start: the value and the rest of the text, or the fault. -/
def Parser.run {α : Type} (parser : Parser α) (text : Text) : Except Fault (α × Text) :=
  match parser (.start text) with
  | .ok value next => .ok (value, next.rest)
  | .fail fault => .error fault
  | .tooDeep => .error .nesting

/-- A text that is read from its start was read up to a place, behind which the rest stands. -/
theorem Parser.exists_of_run_eq_ok {α : Type} {p : Parser α} {text rest : Text} {value : α}
    (run : p.run text = .ok (value, rest)) :
    ∃ next, p (.start text) = .ok value next ∧ next.rest = rest := by
  unfold Parser.run at run
  split at run
  · rename_i read next read_eq
    obtain ⟨rfl, rfl⟩ := Prod.mk.inj (Except.ok.inj run)
    exact ⟨next, read_eq, rfl⟩
  · simp at run
  · simp at run

/-- Read a text from an offset: the value and the offset after it, or the fault. -/
def Parser.runAt {α : Type} (parser : Parser α) (text : Text) (offset : Nat) :
    Except Fault (α × Nat) :=
  match parser (.ofOffset text offset) with
  | .ok value next => .ok (value, next.offset)
  | .fail fault => .error fault
  | .tooDeep => .error .nesting

/-- The offset after a literal at an offset and the spacing behind it. Beyond the end of the
text not even the empty literal is found. -/
def expectAt (text : Text) (offset : Nat) (literal : Text) (spacing : Spacing) :
    Except Fault Nat :=
  if text.length < offset then
    .error ⟨⟨.unexpectedToken, .token literal⟩, offset⟩
  else
    ((Parser.token literal spacing).runAt text offset).map Prod.snd

/-- The offset after the spacing at an offset, which counts from the start when it is negative
and as the end of the text when it lies beyond. -/
def skipAt (text : Text) (offset : Int) (spacing : Spacing) : Nat :=
  ((Cursor.ofOffset text (min offset.toNat text.length)).skip spacing).offset

/-! ### Whole texts -/

/-- The command at the start of a text, and the rest. -/
def parseCommand (text : Text) : Except Fault (Command × Text) :=
  (Parser.command nestingLimit).run text

/-- The symbol at the start of a text, and the rest. -/
def parseSymbol (text : Text) : Except Fault (Symbol × Text) :=
  (Parser.symbol nestingLimit).run text

/-- The record at the start of a text, and the rest. -/
def parseRecord (text : Text) : Except Fault (Record × Text) :=
  (Parser.record nestingLimit).run text

/-- The production at the start of a text, and the rest. -/
def parseProduction (text : Text) : Except Fault (Production × Text) :=
  (Parser.production nestingLimit).run text

/-- The block at the start of a text, and the rest. -/
def parseMathBlock (text : Text) : Except Fault (MathBlock × Text) :=
  (Parser.mathBlock nestingLimit).run text

/-- The productions that are read one after another behind the opening command of a text, also when
the block breaks off, with the offset after each. -/
def committedProductions (text : Text) : List (Production × Nat) :=
  match Parser.blockHead nestingLimit (.start text) with
  | .ok _ next =>
    (Parser.chain (Parser.production nestingLimit) next).items.map
      fun (production, after) => (production, after.offset)
  | _ => []

/-- Whether a complete production starts the text. -/
def isProduction (text : Text) : Bool := (parseProduction text).isOk

end MathGrammar
