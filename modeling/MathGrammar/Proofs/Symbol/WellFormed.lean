import MathGrammar.Node
import MathGrammar.Proofs.Command.WellFormed
import MathGrammar.Proofs.Spacing
import MathGrammar.Proofs.Symbol.Names

/-! # Well-formed symbols

A tree is well formed when the right trees stand in each of its places and all its names are
literals. What is read as a symbol is a well-formed tree, whatever the escape commands put into its
names, and it is written on one line. -/

namespace MathGrammar

/-! ### Trees of symbols -/

namespace Node

/-- Whether the tree is a nonterminal whose name is a literal. -/
def isNonterminal : Node → Bool
  | .nonterminal n => n.name.all isLiteralChar
  | _ => false

/-- Whether the tree is a terminal whose name is a literal. -/
def isTerminal : Node → Bool
  | .terminal t => t.name.all isLiteralChar
  | _ => false

/-- Whether the tree is a vector of a nonterminal. -/
def isVector : Node → Bool
  | .vector element => element.isNonterminal
  | _ => false

/-- Whether the tree may be the value of a field. -/
def isFieldValue (node : Node) : Bool := node.isVector || node.isNonterminal

/-- Whether the tree is a record with at least one field, each from a terminal to a value. -/
def isRecord : Node → Bool
  | .record fields =>
    !fields.isEmpty && fields.all fun (key, value) => key.isTerminal && value.isFieldValue
  | _ => false

/-- Whether the tree may stand in a case. -/
def isSymbol : Node → Bool
  | .arrow source target => source.isNonterminal && target.isNonterminal
  | .bracedVector inner => inner.isVector
  | node => node.isRecord || node.isVector || node.isNonterminal || node.isTerminal

end Node

/-- A vector as the value of a field is formed as the vector is. -/
@[simp] theorem FieldValue.isFieldValue_vector (v : Vector) :
    (FieldValue.vector v).toNode.isFieldValue = v.toNode.isVector :=
  Bool.or_false _

/-- A nonterminal as the value of a field is formed as the nonterminal is. -/
@[simp] theorem FieldValue.isFieldValue_nonterminal (n : Nonterminal) :
    (FieldValue.nonterminal n).toNode.isFieldValue = (Node.nonterminal n).isNonterminal :=
  Bool.false_or _

/-- A record is well formed when it has fields, from terminals to values of fields. -/
theorem Record.isRecord_iff {record : Record} : record.toNode.isRecord = true ↔
    record.fields ≠ [] ∧ ∀ field ∈ record.fields,
      (Node.terminal field.1).isTerminal = true ∧ field.2.toNode.isFieldValue = true := by
  simp only [Record.toNode, Node.isRecord, List.isEmpty_map, List.all_map, Bool.and_eq_true,
    Bool.not_eq_true', List.isEmpty_eq_false_iff, List.all_eq_true, Function.comp_apply]

/-- A record as a symbol is formed as the record is. -/
@[simp] theorem Symbol.isSymbol_record (r : Record) :
    (Symbol.record r).toNode.isSymbol = r.toNode.isRecord := by
  show (r.toNode.isRecord || false || false || false) = r.toNode.isRecord
  simp only [Bool.or_false]

/-- A vector as a symbol is formed as the vector is. -/
@[simp] theorem Symbol.isSymbol_vector (v : Vector) :
    (Symbol.vector v).toNode.isSymbol = v.toNode.isVector := by
  show (false || v.toNode.isVector || false || false) = v.toNode.isVector
  simp only [Bool.or_false, Bool.false_or]

/-- A nonterminal as a symbol is formed as the nonterminal is. -/
@[simp] theorem Symbol.isSymbol_nonterminal (n : Nonterminal) :
    (Symbol.nonterminal n).toNode.isSymbol = (Node.nonterminal n).isNonterminal := by
  show (false || false || (Node.nonterminal n).isNonterminal || false) = _
  simp only [Bool.or_false, Bool.false_or]

/-- A terminal as a symbol is formed as the terminal is. -/
@[simp] theorem Symbol.isSymbol_terminal (t : Terminal) :
    (Symbol.terminal t).toNode.isSymbol = (Node.terminal t).isTerminal :=
  Bool.false_or _

/-! ### Names -/

namespace Command

variable {command : Command}

/-- The name that a command gives to a symbol is a literal: arguments are made of literals and
names, and names of letters. -/
theorem all_isLiteralChar_of_nameFor? {escape name : Text} (formed : command.wellFormed = true)
    (named : command.nameFor? escape = some name) : name.all isLiteralChar = true := by
  obtain ⟨own, -, args⟩ := wellFormed_iff.1 formed
  unfold nameFor? at named
  split at named
  · obtain ⟨arg, first, rfl⟩ := Option.map_eq_some_iff.1 named
    exact all_isLiteralChar_name (args arg (List.mem_of_head? first))
  · obtain rfl := Option.some.inj named
    exact all_isLiteralChar_of_isName own

/-- A well-formed command names a well-formed terminal, if it names one. -/
theorem isTerminal_of_toTerminal {terminal : Terminal} (formed : command.wellFormed = true)
    (accepted : command.toTerminal = .ok terminal) :
    (Node.terminal terminal).isTerminal = true :=
  all_isLiteralChar_of_nameFor? formed (nameFor?_of_toTerminal accepted).1

/-- A well-formed command names a well-formed nonterminal, if it names one. -/
theorem isNonterminal_of_toNonterminal {nonterminal : Nonterminal}
    (formed : command.wellFormed = true)
    (accepted : command.toNonterminal = .ok nonterminal) :
    (Node.nonterminal nonterminal).isNonterminal = true :=
  all_isLiteralChar_of_nameFor? formed (nameFor?_of_toNonterminal accepted).1

end Command

/-! ### What is read -/

namespace Parser

variable (limit : Nat)

/-- A command is read well formed. -/
theorem gives_command : (command limit).Gives fun read => read.wellFormed = true :=
  fun _ _ _ run => (wellFormed_of_command_eq_ok run).1

/-- A terminal is read well formed. -/
theorem gives_terminal :
    (terminal limit).Gives fun read => (Node.terminal read).isTerminal = true :=
  (gives_command limit).judge fun _ _ => Command.isTerminal_of_toTerminal

/-- A nonterminal is read well formed. -/
theorem gives_nonterminal :
    (nonterminal limit).Gives fun read => (Node.nonterminal read).isNonterminal = true :=
  (gives_command limit).judge fun _ _ => Command.isNonterminal_of_toNonterminal

/-- A vector is read well formed. -/
theorem gives_vector : (vector limit).Gives fun read => read.toNode.isVector = true :=
  .behind fun _ => .behind fun _ => (gives_nonterminal limit).bind fun _ formed =>
    .behind fun _ => .pure formed

/-- A vector in brackets is read well formed. -/
theorem gives_bracedVector :
    (bracedVector limit).Gives fun read => read.toNode.isSymbol = true :=
  .behind fun _ => (gives_vector limit).bind fun _ formed => .behind fun _ => .pure formed

/-- An arrow is read well formed. -/
theorem gives_arrow : (arrow limit).Gives fun read => read.toNode.isSymbol = true := by
  refine (gives_nonterminal limit).bind fun source formed => .behind fun _ => ?_
  refine (gives_nonterminal limit).bind fun target formed' => .pure ?_
  show ((Node.nonterminal source).isNonterminal && (Node.nonterminal target).isNonterminal) = true
  rw [formed, formed']
  rfl

/-- The value of a field is read well formed. -/
theorem gives_fieldValue :
    (fieldValue limit).Gives fun read => read.toNode.isFieldValue = true := by
  refine .firstOf fun p mem => ?_
  simp only [List.mem_cons, List.not_mem_nil, or_false] at mem
  rcases mem with rfl | rfl
  · refine Gives.map ?_
    simp only [FieldValue.isFieldValue_vector]
    exact gives_vector limit
  · refine Gives.map ?_
    simp only [FieldValue.isFieldValue_nonterminal]
    exact gives_nonterminal limit

/-- A field is read with a well-formed key and value. -/
theorem gives_recordField : (recordField limit).Gives fun read =>
    (Node.terminal read.1).isTerminal = true ∧ read.2.toNode.isFieldValue = true :=
  .behind fun _ => (gives_terminal limit).bind fun _ key =>
    (gives_fieldValue limit).bind fun _ value => .behind fun _ => .pure ⟨key, value⟩

/-- A record is read well formed, and with a field at least. -/
theorem gives_record : (record limit).Gives fun read => read.toNode.isRecord = true :=
  .behind fun _ => (gives_recordField limit).separated1.bind fun _ formed =>
    .behind fun _ => .pure (Record.isRecord_iff.2 formed)

/-- A symbol is read well formed, whatever its shape. -/
theorem gives_symbol : (symbol limit).Gives fun read => read.toNode.isSymbol = true := by
  refine .firstOf fun p mem => ?_
  simp only [List.mem_cons, List.not_mem_nil, or_false] at mem
  rcases mem with rfl | rfl | rfl | rfl | rfl | rfl
  · refine Gives.map ?_
    simp only [Symbol.isSymbol_record]
    exact gives_record limit
  · exact Gives.map (gives_arrow limit)
  · exact Gives.map (gives_bracedVector limit)
  · refine Gives.map ?_
    simp only [Symbol.isSymbol_vector]
    exact gives_vector limit
  · refine Gives.map ?_
    simp only [Symbol.isSymbol_nonterminal]
    exact gives_nonterminal limit
  · refine Gives.map ?_
    simp only [Symbol.isSymbol_terminal]
    exact gives_terminal limit

end Parser

/-! ### How it is written -/

/-- No character of a literal ends a line. -/
theorem isLineBreak_of_isLiteralChar {c : Char} (plain : isLiteralChar c = true) :
    isLineBreak c = false := by
  have bounds : 0x20 ≤ c.toNat ∧ c.toNat ≤ 0x7A := by
    simp only [isLiteralChar, Bool.or_eq_true, beq_iff_eq] at plain
    rcases plain with ((((alphanumeric | rfl) | rfl) | rfl) | rfl) | rfl
    · have bounds := Spacing.toNat_of_isAlphanum alphanumeric
      omega
    all_goals decide
  rw [Bool.eq_false_iff]
  simp only [isLineBreak, ne_eq, Bool.or_eq_true, Bool.and_eq_true, decide_eq_true_eq, beq_iff_eq]
  omega

/-- Plain characters do not break a line. -/
theorem isLine_of_literal {name : Text} (literal : name.all isLiteralChar = true) :
    name.isLine = true := by
  refine List.all_eq_true.2 fun c mem => ?_
  rw [isLineBreak_of_isLiteralChar (List.all_eq_true.1 literal c mem)]
  rfl

namespace Written

/-- A name is written on one line. -/
theorem isLine_name {own : Text} (literal : own.all isLiteralChar = true)
    (repetition : Option Repetition) : (Written.name own repetition).isLine = true := by
  have mark : (Repetition.suffix repetition).isLine = true := by
    cases repetition with
    | none => rfl
    | some repetition => cases repetition <;> rfl
  show (!isLineBreak '\\' && (own ++ Repetition.suffix repetition).isLine) = true
  rw [Text.isLine_append, isLine_of_literal literal, mark]
  rfl

end Written

/-- A nonterminal is written on one line. -/
theorem Nonterminal.isLine_render {nonterminal : Nonterminal}
    (formed : (Node.nonterminal nonterminal).isNonterminal = true) :
    nonterminal.render.isLine = true :=
  Written.isLine_name formed _

/-- A terminal is written on one line. -/
theorem Terminal.isLine_render {terminal : Terminal}
    (formed : (Node.terminal terminal).isTerminal = true) : terminal.render.isLine = true :=
  Written.isLine_name formed _

/-- A vector is written on one line. -/
theorem Vector.isLine_render {vector : Vector} (formed : vector.toNode.isVector = true) :
    vector.render.isLine = true := by
  have element : vector.element.render.isLine = true := Nonterminal.isLine_render formed
  unfold Vector.render Written.vector
  rw [Text.isLine_append, Text.isLine_append, element]
  rfl

/-- A vector in brackets is written on one line. -/
theorem BracedVector.isLine_render {braced : BracedVector}
    (formed : braced.toNode.isSymbol = true) : braced.render.isLine = true := by
  have inner : braced.vector.render.isLine = true := Vector.isLine_render formed
  show (!isLineBreak '[' && (braced.vector.render ++ [']']).isLine) = true
  rw [Text.isLine_append, inner]
  rfl

/-- An arrow is written on one line. -/
theorem Arrow.isLine_render {arrow : Arrow} (formed : arrow.toNode.isSymbol = true) :
    arrow.render.isLine = true := by
  have both : ((Node.nonterminal arrow.source).isNonterminal
      && (Node.nonterminal arrow.target).isNonterminal) = true := formed
  rw [Bool.and_eq_true] at both
  unfold Arrow.render Written.arrow
  rw [Text.isLine_append, Text.isLine_append, Nonterminal.isLine_render both.1,
    Nonterminal.isLine_render both.2]
  rfl

/-- The value of a field is written on one line. -/
theorem FieldValue.isLine_render {value : FieldValue}
    (formed : value.toNode.isFieldValue = true) : value.render.isLine = true := by
  cases value with
  | vector v =>
      rw [FieldValue.isFieldValue_vector] at formed
      exact Vector.isLine_render formed
  | nonterminal n =>
      rw [FieldValue.isFieldValue_nonterminal] at formed
      exact Nonterminal.isLine_render formed

/-- A record is written on one line. -/
theorem Record.isLine_render {record : Record} (formed : record.toNode.isRecord = true) :
    record.render.isLine = true := by
  obtain ⟨-, fields⟩ := Record.isRecord_iff.1 formed
  unfold Record.render Written.record
  rw [Text.isLine_append, Text.isLine_append, Text.isLine_intercalate rfl]
  · rfl
  · intro piece mem
    simp only [List.map_map, List.mem_map, Function.comp_apply] at mem
    obtain ⟨field, fieldMem, rfl⟩ := mem
    obtain ⟨key, value⟩ := fields field fieldMem
    rw [Text.isLine_append, Terminal.isLine_render key]
    exact FieldValue.isLine_render value

/-- A symbol is written on one line. -/
theorem Symbol.isLine_render {symbol : Symbol} (formed : symbol.toNode.isSymbol = true) :
    symbol.render.isLine = true := by
  cases symbol with
  | record r =>
      rw [Symbol.isSymbol_record] at formed
      exact Record.isLine_render formed
  | arrow a => exact Arrow.isLine_render formed
  | bracedVector b => exact BracedVector.isLine_render formed
  | vector v =>
      rw [Symbol.isSymbol_vector] at formed
      exact Vector.isLine_render formed
  | nonterminal n =>
      rw [Symbol.isSymbol_nonterminal] at formed
      exact Nonterminal.isLine_render formed
  | terminal t =>
      rw [Symbol.isSymbol_terminal] at formed
      exact Terminal.isLine_render formed

end MathGrammar
