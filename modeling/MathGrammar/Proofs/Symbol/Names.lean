import MathGrammar.Symbol.Parser

/-! # The names of symbols

A command gives its own name to a symbol, or that of its first argument where it is the escape for
symbols of that kind. -/

namespace MathGrammar

namespace Command

variable {c : Command}

/-- The name that the command gives to a symbol of the kind with the given escape: that of its first
argument when it is the escape, and else its own. -/
def nameFor? (escape : Text) (command : Command) : Option Text :=
  if command.name = escape then command.args.head?.map Argument.name else some command.name

/-- A command that is no escape names what it is called. -/
theorem nameFor?_of_ne {escape : Text} (ordinary : c.name ≠ escape) :
    c.nameFor? escape = some c.name := if_neg ordinary

/-- Without arguments a name is never that of an escape. -/
theorem name_eq_of_args_eq_nil {escape name : Text} (none : c.args = [])
    (named : c.nameFor? escape = some name) : c.name = name := by
  unfold nameFor? at named
  by_cases escapes : c.name = escape
  · rw [if_pos escapes, none] at named
    exact absurd named nofun
  · rw [if_neg escapes] at named
    exact Option.some.inj named

/-- A command has a name for a symbol only if it is the escape or has the letters for it. -/
theorem nameFor?_of_named {escape name : Text} {own : Bool}
    (named : (if c.name = escape then c.escapedName.map some
      else if own then .ok (some c.name) else .ok none)
        = (.ok (some name) : Except Complaint (Option Text))) :
    c.nameFor? escape = some name ∧ (c.name = escape ∨ own = true) := by
  unfold nameFor?
  by_cases escapes : c.name = escape
  · rw [if_pos escapes] at named ⊢
    unfold escapedName at named
    refine ⟨?_, .inl escapes⟩
    cases args_eq : c.args with
    | nil =>
        rw [args_eq] at named
        exact absurd named nofun
    | cons arg others =>
        rw [args_eq] at named
        exact Except.ok.inj named
  · rw [if_neg escapes] at named ⊢
    cases own with
    | true => exact ⟨Except.ok.inj named, .inr rfl⟩
    | false => exact absurd (Except.ok.inj named) nofun

/-- A command stands for a symbol only where it has a name for it. -/
theorem exists_name_of_bind {α : Type} {named : Except Complaint (Option Text)} {f : Text → α}
    {complaint : Complaint} {result : α}
    (accepted : (named.bind fun
      | some name => .ok (f name)
      | none => .error complaint) = .ok result) :
    ∃ name, named = .ok (some name) ∧ f name = result := by
  cases named with
  | error other => exact absurd accepted nofun
  | ok name =>
      cases name with
      | none => exact absurd accepted nofun
      | some name => exact ⟨name, rfl, Except.ok.inj accepted⟩

/-- A terminal has the name that its command gives it, which is called an escape or is
upper-case. -/
theorem nameFor?_of_toTerminal {t : Terminal} (accepted : c.toTerminal = .ok t) :
    c.nameFor? terminalEscape = some t.name ∧ t.repetition = c.repetition ∧
      (c.name = terminalEscape ∨ c.name.lettersUpper = true) := by
  obtain ⟨name, named, rfl⟩ :=
    exists_name_of_bind (f := fun name => Terminal.mk name c.repetition) accepted
  obtain ⟨name_eq, letters⟩ := nameFor?_of_named named
  exact ⟨name_eq, rfl, letters⟩

/-- A nonterminal has the name that its command gives it, and its mark. -/
theorem nameFor?_of_toNonterminal {n : Nonterminal} (accepted : c.toNonterminal = .ok n) :
    c.nameFor? nonterminalEscape = some n.name ∧ n.repetition = c.repetition := by
  unfold toNonterminal at accepted
  by_cases structural : structuralNames.contains c.name = true
  · rw [if_pos structural] at accepted
    exact absurd accepted nofun
  · rw [if_neg structural] at accepted
    obtain ⟨name, named, rfl⟩ :=
      exists_name_of_bind (f := fun name => Nonterminal.mk name c.repetition) accepted
    exact ⟨(nameFor?_of_named named).1, rfl⟩

/-- A command that is a terminal is none of those that give a block its structure. -/
theorem not_structural_of_toTerminal {t : Terminal} (accepted : c.toTerminal = .ok t) :
    c.name ∉ structuralNames := by
  obtain ⟨-, -, letters⟩ := nameFor?_of_toTerminal accepted
  intro structural
  simp only [structuralNames, List.mem_cons, List.not_mem_nil, or_false] at structural
  rcases structural with name_eq | name_eq <;> rw [name_eq] at letters <;>
    exact absurd letters (by decide)

/-- The nonterminal escape takes its argument for the name, and complains when there is none. -/
theorem toNonterminal_of_escape (escape : c.name = nonterminalEscape) :
    c.toNonterminal = match c.args with
      | arg :: _ => .ok ⟨arg.name, c.repetition⟩
      | [] => .error ⟨.missingArgument, .escapedName nonterminalEscape⟩ := by
  have ordinary : structuralNames.contains c.name ≠ true := by
    rw [escape]
    decide
  rw [toNonterminal, if_neg ordinary, nonterminalName, if_pos escape, escapedName]
  cases c.args with
  | nil => rw [escape]; rfl
  | cons arg others => rfl

/-- The terminal escape takes its argument for the name, and complains when there is none. -/
theorem toTerminal_of_escape (escape : c.name = terminalEscape) :
    c.toTerminal = match c.args with
      | arg :: _ => .ok ⟨arg.name, c.repetition⟩
      | [] => .error ⟨.missingArgument, .escapedName terminalEscape⟩ := by
  rw [toTerminal, terminalName, if_pos escape, escapedName]
  cases c.args with
  | nil => rw [escape]; rfl
  | cons arg others => rfl

/-- By its own name a command is rejected as a nonterminal when that gives a block its structure or
has a letter that is not lower case. -/
theorem toNonterminal_of_unfit (notEscape : c.name ≠ nonterminalEscape)
    (unfit : c.name ∈ structuralNames ∨ c.name.lettersLower = false) :
    c.toNonterminal = .error ⟨.unclassifiable, .nonterminal⟩ := by
  unfold toNonterminal
  by_cases structural : structuralNames.contains c.name = true
  · rw [if_pos structural]
  · have notLower : c.name.lettersLower = false :=
      unfit.resolve_left fun mem => structural (List.contains_iff_mem.2 mem)
    rw [if_neg structural, nonterminalName, if_neg notEscape,
      if_neg (Bool.eq_false_iff.1 notLower)]
    rfl

/-- The escape of one kind is no escape of the other. -/
theorem toNonterminal_of_terminalEscape (escape : c.name = terminalEscape) :
    c.toNonterminal = .error ⟨.unclassifiable, .nonterminal⟩ := by
  refine toNonterminal_of_unfit ?_ (.inr ?_)
  · rw [escape]
    decide
  · rw [escape]
    decide

/-- A command that is neither an escape nor upper-case is no terminal. -/
theorem toTerminal_of_unfit (notEscape : c.name ≠ terminalEscape)
    (notUpper : c.name.lettersUpper = false) :
    c.toTerminal = .error ⟨.unclassifiable, .terminal⟩ := by
  rw [toTerminal, terminalName, if_neg notEscape, if_neg (Bool.eq_false_iff.1 notUpper)]
  rfl

end Command

end MathGrammar
