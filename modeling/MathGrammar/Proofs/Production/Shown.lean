import MathGrammar.Production.Parser
import MathGrammar.Proofs.Symbol.Shown
import MathGrammar.WholeText

/-! # What written right-hand sides show

When no command of a right-hand side has parameters or arguments, nothing that was read of it is
missing in its written form, separators and the marks behind the commands of shapes apart. -/

namespace MathGrammar

open Spacing Text

namespace RightHandSide

/-- The record that is a case by itself is written like the case. -/
theorem render_ofCases (cases : List (List Symbol)) :
    (ofCases cases).render
      = Written.union (cases.map fun symbols => symbols.map Symbol.render) := by
  unfold ofCases
  split
  · simp [render, Written.union, Symbol.render]
  · rfl

end RightHandSide

namespace Parser

variable {limit : Nat}

/-- A bar shows itself, without the spacing around it. -/
theorem takes_bar : bar.Takes fun _ shown => shown = ['|'] := by
  have sign : Shows ['|'] ['|'] := shows_sign (by decide)
  refine (takes_skip .separators).bind fun _ => (takes_token sign .separators).mono ?_
  rintro _ _ rfl _ rfl
  rfl

/-- A case shows what its symbols show when they are written. -/
theorem takes_unionCase : (unionCase limit).Takes fun symbols shown =>
    Shows (List.intercalate [' '] (symbols.map Symbol.render)) shown := by
  refine takes_symbol.many1.mono ?_
  rintro symbols _ ⟨showns, rfl, each⟩
  have pieces : List.Forall₂ Shows (symbols.map Symbol.render) showns :=
    List.forall₂_map_left_iff.2 each
  have whole := shows_space.intercalate pieces
  have apart : List.intercalate [] showns = showns.flatten := by
    cases showns with
    | nil => rfl
    | cons first rest =>
        rw [intercalate_cons, List.flatten_cons]
        simp [List.flatMap_def]
  rwa [apart] at whole

/-- Cases show what they show when they are written with bars. -/
theorem takes_unionCases : (unionCases limit).Takes fun cases shown =>
    Shows (Written.union (cases.map fun symbols => symbols.map Symbol.render)) shown := by
  have sign : Shows ['|'] ['|'] := shows_sign (by decide)
  refine (takes_unionCase.separated1 takes_bar).mono ?_
  rintro cases _ ⟨showns, rfl, each⟩
  have pieces : List.Forall₂ Shows
      (cases.map fun symbols => List.intercalate [' '] (symbols.map Symbol.render)) showns :=
    List.forall₂_map_left_iff.2 each
  have whole := ((shows_space.append sign).append shows_space).intercalate pieces
  simpa [Written.union, Function.comp_def] using whole

/-- A right-hand side shows what it shows when it is written. -/
theorem takes_rightHandSide :
    (rightHandSide limit).Takes fun rhs shown => Shows rhs.render shown := by
  refine Takes.firstOf fun p mem => ?_
  simp only [List.mem_cons, List.not_mem_nil, or_false] at mem
  rcases mem with rfl | rfl
  · refine .map (f := RightHandSide.ofCases) (takes_unionCases.mono fun cases shown shows => ?_)
    rwa [RightHandSide.render_ofCases]
  · exact .map (f := RightHandSide.record) takes_record

/-- **Everything that is read is shown.** When no command in the text of a right-hand side has
parameters or arguments, that text and the written form of what was read are the same without their
separators, except for marks of repetition that stand behind the command of a vector or an arrow.
They are all the same exactly when there is no such mark. -/
theorem rightHandSide_shows_text_iff {text : Text} {start : Nat} {rhs : RightHandSide}
    {next : Cursor}
    (run : rightHandSide limit (.ofOffset text start) = .ok rhs next)
    (noList : hasList ((text.drop start).take (next.offset - start)) = false) :
    ∃ marks, Hides marks (withoutSeparators ((text.drop start).take (next.offset - start)))
        rhs.render.withoutSeparators ∧
      (withoutSeparators ((text.drop start).take (next.offset - start))
        = rhs.render.withoutSeparators
        ↔ marks = []) := by
  obtain ⟨taken, bare, text_eq, shows, relates⟩ := takes_rightHandSide run
  have symbols := (Simulation.reaches_relatesBlocks (.ofOffset text start) limit).symbols
  obtain ⟨taken', text_eq', offset_eq, -⟩ := symbols.rightHandSide.holds ⟨[], rfl, rfl, .nil⟩ run
  obtain rfl : taken = taken' := List.append_cancel_right (text_eq.symm.trans text_eq')
  have consumed : (text.drop start).take (next.offset - start) = taken := by
    rw [offset_eq, Cursor.offset_ofOffset, Nat.add_sub_cancel_left]
    exact (congrArg _ text_eq).trans List.take_left
  rw [consumed] at noList ⊢
  obtain ⟨marks, shown, hides, written⟩ := relates noList
  rw [shows.withoutSeparators_eq, written.withoutSeparators_eq]
  exact ⟨marks, hides, hides.eq_iff⟩

/-- A record and an arrow, each with a mark that is hidden and one that is shown. -/
theorem rightHandSide_shows_text_of_hidden_marks :
    let text : Text := "::=\\\x7b \\A~\\b^?,\\quad\\K2 \\vec^+( \\c )\\\x7d\\\\|".toList
      ++ "&\\d^n \\to^?\\e \\\\".toList
    let fields : List (Terminal × FieldValue) :=
      [(⟨['A'], none⟩, .nonterminal ⟨['b'], some .optional⟩),
        (⟨['K', '2'], none⟩, .vector ⟨⟨['c'], none⟩⟩)]
    let rhs : RightHandSide := .union
      [[.record ⟨fields⟩], [.arrow ⟨⟨['d'], some .counted⟩, ⟨['e'], none⟩⟩]]
    let consumed : Text := (text.drop 3).take 51
    rightHandSide nestingLimit (.ofOffset text 3) = .ok rhs (.ofOffset text 54) ∧
      ∃ marks,
        Hides marks consumed.withoutSeparators rhs.render.withoutSeparators ∧ marks ≠ [] := by
  intro text fields rhs consumed
  have run : rightHandSide nestingLimit (.ofOffset text 3) = .ok rhs (.ofOffset text 54) := by
    decide +kernel
  obtain ⟨marks, hides, same⟩ := rightHandSide_shows_text_iff run (by decide +kernel)
  refine ⟨run, marks, hides, fun none => ?_⟩
  have differ : consumed.withoutSeparators ≠ rhs.render.withoutSeparators := by decide +kernel
  exact differ (same.2 none)

/-- The marks behind the commands of a vector and of an arrow are missing in the written forms. -/
theorem rightHandSide_hides_marks :
    let vector : Text := "\\vec^?(\\a)".toList
    let vectorRead : RightHandSide := .union [[.vector ⟨⟨['a'], none⟩⟩]]
    let arrow : Text := "\\a\\to^+\\b".toList
    let arrowRead : RightHandSide := .union [[.arrow ⟨⟨['a'], none⟩, ⟨['b'], none⟩⟩]]
    (rightHandSide nestingLimit (.start vector) = .ok vectorRead ⟨vector.length, []⟩ ∧
      vector.hasList = false ∧
      vector.withoutSeparators ≠ vectorRead.render.withoutSeparators) ∧
    rightHandSide nestingLimit (.start arrow) = .ok arrowRead ⟨arrow.length, []⟩ ∧
      arrow.hasList = false ∧
      arrow.withoutSeparators ≠ arrowRead.render.withoutSeparators := by
  decide +kernel

end Parser

end MathGrammar
