import MathGrammar.Text.Basic

/-! # Commands

Commands are the lexical unit of the notation: a name, an optional list of parameters, any
number of braced arguments, and an optional mark of repetition. -/

namespace MathGrammar

/-- How often something may occur. -/
inductive Repetition where
  /-- At most once. -/
  | optional
  /-- Any number of times. -/
  | many
  /-- At least once. -/
  | nonEmpty
  /-- A fixed number of times. -/
  | counted
deriving DecidableEq, Repr

namespace Repetition

/-- The mark, as it is written. -/
def mark : Repetition → Text
  | .optional => ['^', '?']
  | .many => ['^', '\\', 'a', 's', 't']
  | .nonEmpty => ['^', '+']
  | .counted => ['^', 'n']

/-- Every kind of repetition. -/
def all : List Repetition := [.optional, .many, .nonEmpty, .counted]

/-- The mark of an optional repetition, nothing when there is none. -/
def suffix : Option Repetition → Text
  | some repetition => repetition.mark
  | none => []

/-- Without a mark nothing is written. -/
@[simp] theorem suffix_none : suffix none = [] := rfl

/-- A mark is written as it is. -/
@[simp] theorem suffix_some (repetition : Repetition) :
    suffix (some repetition) = repetition.mark := rfl

end Repetition

mutual

/-- What stands in the braces of an argument. -/
inductive Argument where
  /-- Plain characters. -/
  | literal (text : Text)
  /-- A command of its own. -/
  | nested (command : Command)

/-- A command with all that belongs to it. -/
structure Command where
  /-- The name, without the backslash. -/
  name : Text
  /-- The parameters in brackets. -/
  params : List Text
  /-- The arguments in braces. -/
  args : List Argument
  /-- The mark of repetition. -/
  repetition : Option Repetition

end

/-! ### Equality -/

mutual

/-- Equality of arguments. -/
def Argument.decEq : (a b : Argument) → Decidable (a = b)
  | .literal s, .literal t =>
    if h : s = t then isTrue (h ▸ rfl) else isFalse fun e => h (Argument.literal.inj e)
  | .literal _, .nested _ => isFalse nofun
  | .nested _, .literal _ => isFalse nofun
  | .nested c, .nested d =>
    match Command.decEq c d with
    | isTrue h => isTrue (h ▸ rfl)
    | isFalse h => isFalse fun e => h (Argument.nested.inj e)

/-- Equality of commands. -/
def Command.decEq : (a b : Command) → Decidable (a = b)
  | ⟨name, params, args, repetition⟩, ⟨name', params', args', repetition'⟩ =>
    match Argument.decEqList args args' with
    | isFalse h => isFalse fun e => h (Command.mk.inj e).2.2.1
    | isTrue hargs =>
      if h : name = name' ∧ params = params' ∧ repetition = repetition' then
        isTrue (by obtain ⟨rfl, rfl, rfl⟩ := h; rw [hargs])
      else
        isFalse fun e =>
          h ⟨(Command.mk.inj e).1, (Command.mk.inj e).2.1, (Command.mk.inj e).2.2.2⟩

/-- Equality of lists of arguments. -/
def Argument.decEqList : (as bs : List Argument) → Decidable (as = bs)
  | [], [] => isTrue rfl
  | [], _ :: _ => isFalse nofun
  | _ :: _, [] => isFalse nofun
  | a :: as, b :: bs =>
    match Argument.decEq a b with
    | isFalse h => isFalse fun e => h (List.cons.inj e).1
    | isTrue h =>
      match Argument.decEqList as bs with
      | isFalse h' => isFalse fun e => h' (List.cons.inj e).2
      | isTrue h' => isTrue (by rw [h, h'])

end

/-- Equality of arguments is decided part by part. -/
instance : DecidableEq Argument := Argument.decEq

/-- Equality of commands is decided part by part. -/
instance : DecidableEq Command := Command.decEq

/-! ### Written form -/

/-- The parameters in brackets, nothing when there are none. -/
def Command.renderParams : List Text → Text
  | [] => []
  | params => '[' :: (List.intercalate [','] params ++ [']'])

mutual

/-- The argument in its braces. -/
def Argument.render : Argument → Text
  | .literal text => '\x7b' :: (text ++ ['\x7d'])
  | .nested command => '\x7b' :: (command.render ++ ['\x7d'])

/-- The command as it is written, without spacing. -/
def Command.render : Command → Text
  | ⟨name, params, args, repetition⟩ =>
    '\\' :: (name ++ Command.renderParams params ++ Argument.renderAll args
      ++ Repetition.suffix repetition)

/-- The arguments one after another. -/
def Argument.renderAll : List Argument → Text
  | [] => []
  | arg :: args => arg.render ++ Argument.renderAll args

end

/-! ### Names -/

/-- The name that an argument gives: its characters, or the name of its command. -/
def Argument.name : Argument → Text
  | .literal text => text
  | .nested command => command.name

end MathGrammar
