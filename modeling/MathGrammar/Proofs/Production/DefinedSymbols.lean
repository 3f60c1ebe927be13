import MathGrammar.Production.Parser
import MathGrammar.Proofs.Success
import MathGrammar.Proofs.Symbol.Names
import MathGrammar.WholeText

/-! # Defined symbols and used symbols

The two sides of a production read their symbols in different ways: on the left any command stands
for a symbol of its own name, and on the right it is judged as a nonterminal. Where both succeed
they give the same symbol, unless the command is an escape for another name. -/

namespace MathGrammar

namespace Parser

variable {limit : Nat} {cursor next : Cursor}

/-- Where a command stands for a defined symbol and for a nonterminal, both have its repetition.
They have the same name unless it is the escape, which stands for its argument only where it is
used. -/
theorem defined_eq_used_iff {c : Command} {used : Nonterminal}
    (accepted : c.toNonterminal = .ok used) :
    used.repetition = c.repetition ∧ (⟨c.name, c.repetition⟩ = used ↔
      (c.name = nonterminalEscape → c.args.head?.map Argument.name = some nonterminalEscape)) := by
  obtain ⟨name_eq, repetition_eq⟩ := Command.nameFor?_of_toNonterminal accepted
  refine ⟨repetition_eq, ?_⟩
  have same : (⟨c.name, c.repetition⟩ = used) ↔ c.nameFor? nonterminalEscape = some c.name := by
    rw [name_eq, Option.some.injEq, ← repetition_eq]
    cases used
    simp [eq_comm]
  rw [same]
  by_cases escape : c.name = nonterminalEscape
  · rw [Command.nameFor?, if_pos escape, escape]
    simp
  · simp [Command.nameFor?_of_ne escape, escape]

/-- **A symbol is defined by the name by which it is used.** Behind the head of a production the
symbols of its left-hand side are read one after another, each where those in front of it end, and
each has the name of its command. Where a nonterminal can be read at such a place, it takes up the
same text and is the same symbol, unless the command is the nonterminal escape with an argument of
another name. -/
theorem production_defines_used_iff {p : Production} {before after : List Nonterminal}
    {defined : Nonterminal} (run : production limit cursor = .ok p next)
    (lhs : p.lhs = before ++ defined :: after) :
    ∃ head place c between, productionHead limit cursor = .ok p.label head ∧
      Items (definedSymbol limit) head before place ∧ command limit place = .ok c between ∧
      defined = ⟨c.name, c.repetition⟩ ∧
      ∀ used behind, nonterminal limit place = .ok used behind → behind = between ∧
        used.repetition = defined.repetition ∧ (defined = used ↔
          (c.name = nonterminalEscape → c.args.head?.map Argument.name
            = some nonterminalEscape)) := by
  obtain ⟨label, head, labelled, run⟩ := bind_eq_ok.1 run
  obtain ⟨all, _, symbols, run⟩ := bind_eq_ok.1 run
  obtain ⟨_, _, -, run⟩ := bind_eq_ok.1 run
  obtain ⟨_, _, -, run⟩ := bind_eq_ok.1 run
  obtain ⟨_, _, -, run⟩ := bind_eq_ok.1 run
  obtain ⟨rfl, -⟩ := pure_eq_ok.1 run
  obtain rfl : all = before ++ defined :: after := lhs
  obtain ⟨place, inFront, others⟩ := (items_of_many symbols).split
  cases others with
  | @cons _ between _ _ _ define _ =>
      obtain ⟨c, here, rfl⟩ := map_eq_ok.1 define
      refine ⟨head, place, c, between, labelled, inFront, here, rfl, fun used behind use => ?_⟩
      -- The nonterminal is read from the same command.
      obtain ⟨read, again, accepted⟩ := judge_eq_ok.1 use
      obtain ⟨rfl, rfl⟩ := Outcome.ok.inj (here.symm.trans again)
      exact ⟨rfl, defined_eq_used_iff accepted⟩

/-- The last of three symbols, behind one that is defined as an escape. -/
theorem production_defines_used_behind_escape :
    let text : Text := "\\production\x7bp\x7d\\a\\X\x7by\x7d^+\\b[r]^\\ast&::=\\c\\\\".toList
    let before : List Nonterminal := [⟨['a'], none⟩, ⟨['X'], some .nonEmpty⟩]
    let defined : Nonterminal := ⟨['b'], some .many⟩
    let read : Production :=
      ⟨['p'], before ++ [defined], .union [[.nonterminal ⟨['c'], none⟩]]⟩
    production nestingLimit (.start text) = .ok read ⟨text.length, []⟩ ∧
      ∃ head place, productionHead nestingLimit (.start text) = .ok ['p'] head ∧
        Items (definedSymbol nestingLimit) head before place ∧
        ∀ used behind, nonterminal nestingLimit place = .ok used behind → used = defined := by
  intro text before defined read
  have run : production nestingLimit (.start text) = .ok read ⟨text.length, []⟩ := by
    decide +kernel
  have lhs : read.lhs = before ++ defined :: [] := rfl
  obtain ⟨head, place, c, between, labelled, inFront, -, defined_eq, uses⟩ :=
    production_defines_used_iff run lhs
  refine ⟨run, head, place, labelled, inFront, fun used behind use => ?_⟩
  obtain ⟨-, -, same⟩ := uses used behind use
  refine (same.2 fun escape => ?_).symm
  rw [← (Nonterminal.mk.inj defined_eq).1] at escape
  exact absurd escape (by decide)

/-- An escape defines a symbol of its own name, where it is used for that of its argument. -/
theorem production_defines_escape :
    let text : Text := "\\production\x7ba\x7d\\X\x7by\x7d::=\\b\\\\".toList
    let defined : Nonterminal := ⟨['X'], none⟩
    let used : Nonterminal := ⟨['y'], none⟩
    production nestingLimit (.start text)
        = .ok ⟨['a'], [defined], .union [[.nonterminal ⟨['b'], none⟩]]⟩ (.ofOffset text 26) ∧
      productionHead nestingLimit (.start text) = .ok ['a'] (.ofOffset text 14) ∧
      nonterminal nestingLimit (.ofOffset text 14) = .ok used (.ofOffset text 19) ∧
      defined ≠ used := by
  decide +kernel

end Parser

end MathGrammar
