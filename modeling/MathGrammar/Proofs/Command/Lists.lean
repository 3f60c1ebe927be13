import MathGrammar.Proofs.Rounds
import MathGrammar.Proofs.Symbol.Yields

/-! # Lists behind commands

The parameters and arguments of a command stand directly behind its name. A text whose commands have
neither shows that by itself, and a command that is read in it has neither. -/

namespace MathGrammar

open Spacing Text

/-! ### Lists in a text -/

/-- Parameters that are found in front of a text are found there whatever stands behind them. -/
theorem exists_of_paramsAhead {text : Text} {names : List Text} {length : Nat}
    (found : paramsAhead text = .ok (names, length)) (nonempty : names ≠ []) :
    ∃ list rest, text = list ++ rest ∧ list.length = length ∧
      ∀ more, paramsAhead (list ++ more) = .ok (names, length) := by
  unfold paramsAhead at found
  split at found
  · rename_i rest
    dsimp only at found
    have inside : (rest.takeWhile fun c => c.isAlphanum || c == ',').all
        (fun c => c.isAlphanum || c == ',') = true := List.all_takeWhile
    obtain ⟨behind, text_eq⟩ :=
      List.takeWhile_prefix (l := rest) fun c => c.isAlphanum || c == ','
    generalize rest.takeWhile (fun c => c.isAlphanum || c == ',') = taken at *
    subst text_eq
    rw [List.drop_left] at found
    split at found
    · rename_i closed
      obtain ⟨rfl, rfl⟩ := Prod.mk.inj (Except.ok.inj found)
      obtain ⟨named, bracket⟩ := Bool.and_eq_true_iff.1 closed
      obtain ⟨after, rfl⟩ := List.isPrefixOf_iff_prefix.1 bracket
      refine ⟨'[' :: (taken ++ [']']), after, by simp, by simp, fun more => ?_⟩
      have taken_eq : (taken ++ ']' :: more).takeWhile (fun c => c.isAlphanum || c == ',')
          = taken := by
        refine takeWhile_append_of_headNot inside ?_
        rintro c ⟨⟩
        decide
      simp [paramsAhead, taken_eq, named]
    · exact absurd (Prod.mk.inj (Except.ok.inj found)).1.symm nonempty
  · exact absurd (Prod.mk.inj (Except.ok.inj found)).1.symm nonempty

namespace Text

/-- Whether parameters in brackets or an argument in braces stand in front of the text. -/
def startsWithList (text : Text) : Bool :=
  ['\x7b'].isPrefixOf text || match paramsAhead text with
    | .ok (_ :: _, _) => true
    | _ => false

/-- Whether a command in the text has parameters or arguments. -/
def hasList : Text → Bool
  | [] => false
  | c :: rest =>
    (c == '\\' && isName (rest.takeWhile Char.isAlphanum)
      && startsWithList (rest.dropWhile Char.isAlphanum)) || hasList rest

/-- A list stands in front of a text when a brace does, or parameters that are read. -/
theorem startsWithList_iff {text : Text} : text.startsWithList = true ↔ ['\x7b'] <+: text ∨
    ∃ names length, names ≠ [] ∧ paramsAhead text = .ok (names, length) := by
  rw [startsWithList, Bool.or_eq_true, List.isPrefixOf_iff_prefix]
  refine or_congr_right ?_
  constructor
  · intro listed
    split at listed
    · rename_i name names length found
      exact ⟨_, _, List.cons_ne_nil _ _, found⟩
    · exact absurd listed Bool.false_ne_true
  · rintro ⟨names, length, nonempty, found⟩
    obtain ⟨name, names, rfl⟩ := List.exists_cons_of_ne_nil nonempty
    rw [found]

/-- A list in front of a text is in front of every longer one. -/
theorem startsWithList_append {text : Text} (starts : text.startsWithList = true) (more : Text) :
    (text ++ more).startsWithList = true := by
  rw [startsWithList_iff] at starts ⊢
  rcases starts with brace | ⟨names, length, nonempty, found⟩
  · exact .inl (brace.trans (List.prefix_append text more))
  · obtain ⟨list, rest, rfl, -, ahead⟩ := exists_of_paramsAhead found nonempty
    exact .inr ⟨names, length, nonempty, by rw [List.append_assoc, ahead]⟩

/-- A list belongs to the command that it stands behind. -/
theorem hasList_of_name {name list : Text} (named : isName name = true)
    (starts : list.startsWithList = true) (head : list.HeadNot Char.isAlphanum) :
    hasList ('\\' :: (name ++ list)) = true := by
  have taken := takeWhile_append_of_headNot (all_of_isName named) head
  have behind : (name ++ list).dropWhile Char.isAlphanum = list := by
    have parts := List.takeWhile_append_dropWhile (p := Char.isAlphanum) (l := name ++ list)
    rw [taken] at parts
    exact List.append_cancel_left parts
  rw [hasList, taken, behind, named, starts]
  rfl

/-- No command in a part of a text has a list when none in the whole text has one. -/
theorem hasList_append_eq_false {text more : Text} (none : (text ++ more).hasList = false) :
    text.hasList = false ∧ more.hasList = false := by
  induction text with
  | nil => exact ⟨rfl, none⟩
  | cons c text ih =>
      have later : hasList (text ++ more) = false := by
        rw [List.cons_append, hasList, Bool.or_eq_false_iff] at none
        exact none.2
      obtain ⟨inText, inMore⟩ := ih later
      refine ⟨?_, inMore⟩
      rw [hasList, inText, Bool.or_false, ← Bool.not_eq_true]
      intro found
      simp only [Bool.and_eq_true, beq_iff_eq] at found
      obtain ⟨⟨rfl, named⟩, starts⟩ := found
      -- The list in the first part is one in the whole text.
      have head := List.head?_dropWhile_not Char.isAlphanum text
      have parts := List.takeWhile_append_dropWhile (p := Char.isAlphanum) (l := text)
      generalize text.takeWhile Char.isAlphanum = name at *
      generalize text.dropWhile Char.isAlphanum = list at *
      subst parts
      cases list with
      | nil => exact absurd starts (by decide)
      | cons d list =>
          rw [List.cons_append, List.append_assoc] at none
          have outside : Text.HeadNot Char.isAlphanum (d :: list ++ more) := by
            rintro e ⟨⟩
            exact head
          exact absurd (hasList_of_name named (startsWithList_append starts more) outside)
            (Bool.eq_false_iff.1 none)

end Text

/-! ### Lists that are read -/

namespace Parser

variable {α : Type} {p : Parser α} {limit : Nat} {cursor next : Cursor}

/-- Where no parameters are found nothing is taken up for them. -/
theorem length_eq_zero_of_paramsAhead {text : Text} {length : Nat}
    (found : paramsAhead text = .ok ([], length)) : length = 0 := by
  unfold paramsAhead at found
  split at found
  · dsimp only at found
    split at found
    · -- Splitting gives at least one piece.
      have none := (Prod.mk.inj (Except.ok.inj found)).1
      rw [Text.splitOn_eq] at none
      exact absurd none (List.splitOn_ne_nil _ _)
    · exact (Prod.mk.inj (Except.ok.inj found)).2.symm
  · exact (Prod.mk.inj (Except.ok.inj found)).2.symm

/-- Parameters that are read up to a place in the text stand in front of that place. -/
theorem params_of_noList {behind last : Text} {names : List Text}
    (run : params cursor = .ok names next) (rest_eq : cursor.rest = behind ++ last)
    (within : last.length ≤ next.rest.length) (none : startsWithList behind = false) :
    names = [] ∧ next = cursor := by
  rw [params_eq_scan, scan_eq_ok] at run
  obtain ⟨length, ahead, rfl⟩ := run
  have noNames : names = [] := by
    refine Decidable.byContradiction fun nonempty => ?_
    rw [rest_eq] at ahead
    obtain ⟨list, tail, text_eq, length_eq, found⟩ := exists_of_paramsAhead ahead nonempty
    have inFront : list <+: behind := by
      refine List.prefix_of_prefix_length_le ⟨tail, text_eq.symm⟩ (List.prefix_append _ _) ?_
      rw [Cursor.rest_advance, rest_eq, text_eq, List.length_drop, List.length_append] at within
      have total := congrArg List.length text_eq
      rw [List.length_append, List.length_append] at total
      omega
    obtain ⟨more, rfl⟩ := inFront
    exact absurd (startsWithList_iff.2 (.inr ⟨names, length, nonempty, found more⟩))
      (Bool.eq_false_iff.1 none)
  rw [noNames] at ahead
  exact ⟨noNames, by rw [length_eq_zero_of_paramsAhead ahead, Cursor.advance_zero]⟩

/-- Arguments that are read up to a place in the text stand in front of that place. -/
theorem arguments_of_noList {inner : Parser Command} {least : Nat} {behind last : Text}
    {args : List Argument} (advances : inner.Advances least)
    (run : many (argument inner) cursor = .ok args next) (rest_eq : cursor.rest = behind ++ last)
    (within : last.length ≤ next.rest.length) (none : startsWithList behind = false) :
    args = [] ∧ next = cursor := by
  cases items_of_many run with
  | nil => exact ⟨rfl, rfl⟩
  | @cons _ between _ _ _ first others =>
      have firstShorter := ((advances_argument advances).lt first).2
      have othersShorter := others.length_le (advances_argument advances)
      obtain ⟨_, _, opened, -⟩ := bind_eq_ok.1 first
      have brace : ['\x7b'] <+: behind ++ last := by
        rw [← rest_eq, exists_of_literal_eq_ok opened]
        exact List.prefix_append _ _
      have inFront : ['\x7b'] <+: behind := by
        refine List.prefix_of_prefix_length_le brace (List.prefix_append _ _) ?_
        rw [rest_eq, List.length_append] at firstShorter
        rw [List.length_singleton]
        omega
      exact absurd (startsWithList_iff.2 (.inl inFront)) (Bool.eq_false_iff.1 none)

/-- What a command takes up behind its name: a list, or else only its mark of repetition and
spacing. -/
theorem exists_behind_of_command {c : Command} (run : command limit cursor = .ok c next) :
    ∃ behind, cursor.rest = '\\' :: (c.name ++ (behind ++ next.rest)) ∧
      Text.HeadNot Char.isAlphanum behind ∧ (startsWithList behind = false → c.args = [] ∧
        ∃ spaces, behind = Repetition.suffix c.repetition ++ spaces ∧
          Tokens .inline spaces next.rest) := by
  obtain ⟨rest, rest_eq, head, ⟨behind, rfl⟩, -⟩ := exists_of_command run
  refine ⟨behind, rest_eq, head.of_append, fun none => ?_⟩
  obtain ⟨inner, named, listed, applied, marked, -, name, params, args, repetition, rfl⟩ :=
    exists_of_command_eq_ok run
  have named_rest : named.rest = behind ++ (marked.skip .inline).rest := by
    obtain ⟨_, _, _, _, rfl⟩ := exists_of_commandName_eq_ok name
    rw [Cursor.rest_advance, rest_eq, List.drop_succ_cons, List.drop_left]
  -- The command ends behind its lists, so lists in front of that place are behind the name.
  have skipped : skip .inline marked = .ok () (marked.skip .inline) := rfl
  have afterArgs : (marked.skip .inline).rest.length ≤ applied.rest.length :=
    ((advances_skip .inline).length_le skipped).trans (advances_repetition.length_le repetition)
  have advances := advances_command inner
  have afterParams :=
    afterArgs.trans ((items_of_many args).length_le (advances_argument advances))
  obtain ⟨-, rfl⟩ := params_of_noList params named_rest afterParams none
  obtain ⟨noArgs, rfl⟩ := arguments_of_noList advances args named_rest afterArgs none
  obtain ⟨spaces, rest, marked_rest, tokens, -, skip_eq⟩ := exists_of_skip .inline marked
  have mark := exists_of_repetition_eq_ok repetition
  rw [named_rest, marked_rest, skip_eq, ← List.append_assoc] at mark
  rw [skip_eq]
  exact ⟨noArgs, spaces, List.append_cancel_right mark, tokens⟩

end Parser

end MathGrammar
