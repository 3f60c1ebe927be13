import MathGrammar.Proofs.Command.Lists
import MathGrammar.Proofs.Separators

/-! # What written symbols show

The written form of a symbol shows what was read as the symbol, when no command in it has parameters
or arguments. Only the commands of vectors and arrows are no part of a symbol: they are written
anew, and a mark of repetition behind one of them is not shown. -/

namespace MathGrammar

open Spacing Text

/-! ### Hidden marks -/

/-- The commands that are read for the shape of a symbol and are no part of it. -/
def shapeNames : List Text := [['v', 'e', 'c'], ['t', 'o']]

/-- The first text is the second one and the given marks, each behind a command that is read for its
shape. -/
inductive Hides : List Repetition → Text → Text → Prop where
  /-- Nothing is left to compare. -/
  | nil : Hides [] [] []
  /-- A character of both texts. -/
  | char (c : Char) {marks : List Repetition} {text shown : Text}
      (others : Hides marks text shown) :
    Hides marks (c :: text) (c :: shown)
  /-- A mark behind a command of both texts. -/
  | mark {name : Text} (shape : name ∈ shapeNames) (kind : Repetition) {marks : List Repetition}
    {text shown : Text} (others : Hides marks text shown) :
    Hides (kind :: marks) ('\\' :: (name ++ kind.mark ++ text)) ('\\' :: (name ++ shown))

namespace Hides

variable {marks others : List Repetition} {text shown more seen : Text}

/-- A text hides nothing of itself. -/
theorem refl (text : Text) : Hides [] text text := by
  induction text with
  | nil => exact .nil
  | cons c text ih => exact .char c ih

/-- What two texts hide they hide together. -/
theorem append (first : Hides marks text shown) (second : Hides others more seen) :
    Hides (marks ++ others) (text ++ more) (shown ++ seen) := by
  induction first with
  | nil => exact second
  | char c _ ih => exact .char c ih
  | mark shape kind _ ih =>
      have both := Hides.mark shape kind ih
      simpa only [List.cons_append, List.append_assoc] using both

/-- The marks are what the second text is shorter by. -/
theorem length_eq (hides : Hides marks text shown) :
    text.length = shown.length + (marks.flatMap Repetition.mark).length := by
  induction hides with
  | nil => rfl
  | char c _ ih =>
      rw [List.length_cons, List.length_cons, ih]
      exact Nat.add_right_comm _ _ 1
  | mark shape kind _ ih =>
      simp only [List.length_cons, List.length_append, List.flatMap_cons, ih]
      omega

/-- Texts that differ in no mark are the same. -/
theorem eq_iff (hides : Hides marks text shown) : text = shown ↔ marks = [] := by
  constructor
  · rintro rfl
    have none := hides.length_eq
    cases marks with
    | nil => rfl
    | cons kind marks =>
        -- No mark is empty.
        rw [List.flatMap_cons, List.length_append] at none
        cases kind <;> simp [Repetition.mark] at none
  · rintro rfl
    generalize none : ([] : List Repetition) = marks at hides
    induction hides with
    | nil => rfl
    | char c _ ih => rw [ih none]
    | mark => exact absurd none.symm (List.cons_ne_nil _ _)

end Hides

namespace Parser

/-! ### What readers take up -/

variable {α β : Type}

/-- A success takes up a text that can be cut off. When no command in it has a list, what it shows
is, but for hidden marks, what the value is related to. -/
def Takes (p : Parser α) (P : α → Text → Prop) : Prop :=
  ∀ ⦃cursor next : Cursor⦄ ⦃value : α⦄, p cursor = .ok value next →
    ∃ taken bare, cursor.rest = taken ++ next.rest ∧ Shows taken bare ∧
      (hasList taken = false → ∃ marks shown, Hides marks bare shown ∧ P value shown)

variable {p : Parser α} {P : α → Text → Prop} {Q : β → Text → Prop}

namespace Takes

/-- A value without any reading shows nothing. -/
theorem pure {value : α} (holds : P value []) : (pure value : Parser α).Takes P := by
  intro cursor next result run
  obtain ⟨rfl, rfl⟩ := pure_eq_ok.1 run
  exact ⟨[], [], rfl, .nil, fun _ => ⟨[], [], .nil, holds⟩⟩

/-- The second reader is told about every text that the first value may be related to. -/
theorem bind {f : α → Parser β} (first : p.Takes P)
    (second : ∀ value, (f value).Takes fun result more =>
      ∀ shown, P value shown → Q result (shown ++ more)) : (p >>= f).Takes Q := by
  intro cursor next result run
  obtain ⟨value, between, read, run⟩ := bind_eq_ok.1 run
  obtain ⟨taken, bare, cursor_eq, shows, relates⟩ := first read
  obtain ⟨taken', bare', between_eq, shows', relates'⟩ := second value run
  refine ⟨taken ++ taken', bare ++ bare', ?_, shows.append shows', fun none => ?_⟩
  · rw [cursor_eq, between_eq, List.append_assoc]
  · obtain ⟨none, none'⟩ := hasList_append_eq_false none
    obtain ⟨marks, shown, hides, holds⟩ := relates none
    obtain ⟨marks', shown', hides', holds'⟩ := relates' none'
    exact ⟨_, _, hides.append hides', holds' shown holds⟩

/-- What is related to a value may be weakened. -/
theorem mono {P' : α → Text → Prop} (takes : p.Takes P)
    (weaker : ∀ value shown, P value shown → P' value shown) : p.Takes P' := by
  intro cursor next value run
  obtain ⟨taken, bare, cursor_eq, shows, relates⟩ := takes run
  refine ⟨taken, bare, cursor_eq, shows, fun none => ?_⟩
  obtain ⟨marks, shown, hides, holds⟩ := relates none
  exact ⟨marks, shown, hides, weaker value shown holds⟩

/-- A value that is turned into another shows what it showed. -/
theorem map {f : α → β} (takes : p.Takes fun value => Q (f value)) : (p.map f).Takes Q := by
  intro cursor next result run
  obtain ⟨value, read, rfl⟩ := map_eq_ok.1 run
  exact takes read

/-- Alternatives show what each of them does. -/
theorem firstOf {ps : List (Parser α)} {complaint : Complaint} (each : ∀ p ∈ ps, p.Takes P) :
    (firstOf ps complaint).Takes P := by
  intro cursor next value run
  obtain ⟨p, mem, read⟩ := exists_of_firstOf_eq_ok run
  exact each p mem read

/-- Items one after another are related to the texts of each in turn. -/
theorem items (takes : p.Takes P) {cursor next : Cursor} {values : List α}
    (items : Items p cursor values next) :
    ∃ taken bare, cursor.rest = taken ++ next.rest ∧ Shows taken bare ∧
      (hasList taken = false → ∃ marks showns, Hides marks bare showns.flatten ∧
        List.Forall₂ P values showns) := by
  induction items with
  | nil cursor => exact ⟨[], [], rfl, .nil, fun _ => ⟨[], [], .nil, .nil⟩⟩
  | cons first _ ih =>
      obtain ⟨taken, bare, cursor_eq, shows, relates⟩ := takes first
      obtain ⟨taken', bare', between_eq, shows', relates'⟩ := ih
      refine ⟨taken ++ taken', bare ++ bare', ?_, shows.append shows', fun none => ?_⟩
      · rw [cursor_eq, between_eq, List.append_assoc]
      · obtain ⟨none, none'⟩ := hasList_append_eq_false none
        obtain ⟨marks, shown, hides, holds⟩ := relates none
        obtain ⟨marks', showns, hides', holds'⟩ := relates' none'
        exact ⟨_, shown :: showns, hides.append hides', .cons holds holds'⟩

/-- A repetition that needs an item shows what its values show, one after another. -/
theorem many1 {expected : Expectation} (takes : p.Takes P) :
    (many1 p expected).Takes fun values shown =>
      ∃ showns, shown = showns.flatten ∧ List.Forall₂ P values showns := by
  intro cursor next values run
  obtain ⟨taken, bare, cursor_eq, shows, relates⟩ := takes.items (items_of_many1 run).1
  refine ⟨taken, bare, cursor_eq, shows, fun none => ?_⟩
  obtain ⟨marks, showns, hides, holds⟩ := relates none
  exact ⟨marks, _, hides, showns, rfl, holds⟩

/-- Texts that all start with the same one are that one in front of each of the others. -/
theorem exists_of_separated {between : Text} {values : List α} {showns : List Text}
    (each : List.Forall₂ (fun value shown => ∃ own, shown = between ++ own ∧ P value own)
      values showns) :
    ∃ owns : List Text, showns.flatten = owns.flatMap (fun own => between ++ own) ∧
      List.Forall₂ P values owns := by
  induction each with
  | nil => exact ⟨[], rfl, .nil⟩
  | cons first _ ih =>
      obtain ⟨own, rfl, holds⟩ := first
      obtain ⟨owns, flatten_eq, others⟩ := ih
      exact ⟨own :: owns, by rw [List.flatten_cons, flatten_eq, List.flatMap_cons],
        .cons holds others⟩

/-- Items with separators between them are related to the texts of each, with what the separators
show between. -/
theorem separated1 {separator : Parser β} {expected : Expectation} {between : Text}
    (takes : p.Takes P) (separates : separator.Takes fun _ shown => shown = between) :
    (separated1 p separator expected).Takes fun values shown =>
      ∃ showns, shown = List.intercalate between showns ∧ List.Forall₂ P values showns := by
  intro cursor next values run
  obtain ⟨first, place, others, read, items, rfl⟩ := items_of_separated1 run
  have behind : (separator >>= fun _ => p).Takes fun value shown =>
      ∃ own, shown = between ++ own ∧ P value own := by
    refine separates.bind fun _ => takes.mono fun value own holds shown shown_eq => ?_
    exact ⟨own, by rw [shown_eq], holds⟩
  obtain ⟨taken, bare, cursor_eq, shows, relates⟩ := takes read
  obtain ⟨taken', bare', place_eq, shows', relates'⟩ := behind.items items
  refine ⟨taken ++ taken', bare ++ bare', ?_, shows.append shows', fun none => ?_⟩
  · rw [cursor_eq, place_eq, List.append_assoc]
  · obtain ⟨none, none'⟩ := hasList_append_eq_false none
    obtain ⟨marks, shown, hides, holds⟩ := relates none
    obtain ⟨marks', showns, hides', holds'⟩ := relates' none'
    obtain ⟨owns, flatten_eq, each⟩ := exists_of_separated holds'
    rw [flatten_eq] at hides'
    refine ⟨_, _, hides.append hides', shown :: owns, ?_, .cons holds each⟩
    rw [intercalate_cons]

end Takes

/-! ### Readers -/

variable {limit : Nat}

/-- Spacing shows nothing. -/
theorem takes_skip (spacing : Spacing) : (skip spacing).Takes fun _ shown => shown = [] := by
  intro cursor next value run
  obtain ⟨-, rfl⟩ := Outcome.ok.inj run
  obtain ⟨spaces, rest, cursor_eq, tokens, -, skip_eq⟩ := exists_of_skip spacing cursor
  rw [skip_eq]
  exact ⟨spaces, [], cursor_eq, .of_tokens tokens, fun _ => ⟨[], [], .nil, rfl⟩⟩

/-- A sign shows what is left of it without its separators. -/
theorem takes_literal {characters bare : Text} (shows : Shows characters bare) :
    (literal characters).Takes fun _ shown => shown = bare := by
  intro cursor next value run
  exact ⟨characters, bare, exists_of_literal_eq_ok run, shows, fun _ => ⟨[], bare, .refl bare, rfl⟩⟩

/-- A sign with spacing shows what the sign shows. -/
theorem takes_token {characters bare : Text} (shows : Shows characters bare) (spacing : Spacing) :
    (token characters spacing).Takes fun _ shown => shown = bare := by
  refine (takes_literal shows).bind fun _ => (takes_skip spacing).mono ?_
  rintro _ _ rfl _ rfl
  exact List.append_nil _

/-- A name with its mark can be cut off. -/
theorem shows_written {name : Text} (named : isName name = true) (mark : Option Repetition) :
    Shows (Written.name name mark) (Written.name name mark).withoutSeparators := by
  refine ⟨?_, rfl, rfl⟩
  have noBackslash : '\\' ∉ name := by
    intro mem
    exact absurd (List.all_eq_true.1 (all_of_isName named) _ mem) (by decide)
  have units : Units .separators (Repetition.suffix mark) := by
    cases mark with
    | none => exact .nil
    | some kind => exact units_mark kind
  -- The backslash comes with the first character of the name.
  cases name with
  | nil => exact absurd named nofun
  | cons c name =>
      rw [List.mem_cons, not_or] at noBackslash
      exact .pair (fun c_eq => absurd c_eq.symm noBackslash.1)
        ((Units.of_notMem noBackslash.2).append units)

/-- A command without a list shows its name and its mark. -/
theorem exists_taken_of_command {cursor next : Cursor} {c : Command}
    (run : command limit cursor = .ok c next) :
    ∃ taken bare, cursor.rest = taken ++ next.rest ∧ Shows taken bare ∧ (hasList taken = false →
      c.args = [] ∧ Shows (Written.name c.name c.repetition) bare) := by
  obtain ⟨behind, rest_eq, head, alone⟩ := exists_behind_of_command run
  have named := isName_of_command run
  have parts : (Simulation.invariant (cursor.Reaches .inline)).RelatesCommands :=
    Simulation.reaches_relatesCommands
  obtain ⟨taken, cursor_eq, -, units⟩ := (parts.command (.inl rfl)).holds ⟨[], rfl, rfl, .nil⟩ run
  obtain rfl : '\\' :: (c.name ++ behind) = taken := by
    rw [cursor_eq, ← List.append_assoc, ← List.cons_append] at rest_eq
    exact (List.append_cancel_right rest_eq).symm
  refine ⟨_, _, cursor_eq, ⟨units.of_inline, rfl, rfl⟩, fun none => ?_⟩
  have noList : startsWithList behind = false := by
    rw [← Bool.not_eq_true]
    intro starts
    exact absurd (hasList_of_name named starts head) (Bool.eq_false_iff.1 none)
  obtain ⟨noArgs, spaces, rfl, tokens⟩ := alone noList
  have shows := shows_written named c.repetition
  have both := shows.append (Shows.of_tokens tokens)
  have written_eq : '\\' :: (c.name ++ (Repetition.suffix c.repetition ++ spaces))
      = Written.name c.name c.repetition ++ spaces := by
    rw [Written.name, List.cons_append, List.append_assoc]
  rw [written_eq, both.withoutSeparators_eq, List.append_nil]
  exact ⟨noArgs, shows⟩

/-- A command that is judged as a symbol of its kind shows the symbol. -/
theorem takes_judged {verdict : Command → Except Complaint α} {render : α → Text}
    (accepted : ∀ c value, c.args = [] → verdict c = .ok value →
      Written.name c.name c.repetition = render value) :
    ((command limit).judge verdict).Takes fun value shown => Shows (render value) shown := by
  intro cursor next value run
  obtain ⟨c, read, verdict_eq⟩ := judge_eq_ok.1 run
  obtain ⟨taken, bare, cursor_eq, shows, alone⟩ := exists_taken_of_command read
  refine ⟨taken, bare, cursor_eq, shows, fun none => ?_⟩
  obtain ⟨noArgs, written⟩ := alone none
  rw [accepted c value noArgs verdict_eq] at written
  exact ⟨[], bare, .refl bare, written⟩

/-- A nonterminal without lists shows what it shows when it is written. -/
theorem takes_nonterminal : (nonterminal limit).Takes fun n shown => Shows n.render shown := by
  refine takes_judged fun c n noArgs accepted => ?_
  obtain ⟨name_eq, repetition_eq⟩ := Command.nameFor?_of_toNonterminal accepted
  rw [Nonterminal.render, Command.name_eq_of_args_eq_nil noArgs name_eq, repetition_eq]

/-- A terminal without lists shows what it shows when it is written. -/
theorem takes_terminal : (terminal limit).Takes fun t shown => Shows t.render shown := by
  refine takes_judged fun c t noArgs accepted => ?_
  obtain ⟨name_eq, repetition_eq, -⟩ := Command.nameFor?_of_toTerminal accepted
  rw [Terminal.render, Command.name_eq_of_args_eq_nil noArgs name_eq, repetition_eq]

/-- A command that is read for its shape is no separator. -/
theorem withoutSeparators_shape {name : Text} (shape : name ∈ shapeNames)
    (mark : Option Repetition) :
    (Written.name name mark).withoutSeparators = Written.name name mark := by
  simp only [shapeNames, List.mem_cons, List.not_mem_nil, or_false] at shape
  rcases shape with rfl | rfl <;> cases mark with
  | none => decide
  | some kind => cases kind <;> decide

/-- Of a command that is read for its shape only the mark is hidden. -/
theorem takes_shapeCommand {kind : FaultKind} {name : Text} (shape : name ∈ shapeNames) :
    (commandNamed limit kind name).Takes fun _ shown => Shows (Written.name name none) shown := by
  intro cursor next c run
  obtain ⟨read, rfl⟩ := commandNamed_eq_ok_iff.1 run
  obtain ⟨taken, bare, cursor_eq, shows, alone⟩ := exists_taken_of_command read
  refine ⟨taken, bare, cursor_eq, shows, fun noList => ?_⟩
  obtain ⟨-, written⟩ := alone noList
  have own := shows_written (isName_of_command read) none
  obtain rfl : Written.name c.name c.repetition = bare := by
    rw [← written.withoutSeparators_eq, withoutSeparators_shape shape]
  rw [withoutSeparators_shape shape] at own
  cases c.repetition with
  | none => exact ⟨[], _, .refl _, own⟩
  | some mark =>
      have hides := Hides.mark shape mark .nil
      rw [List.append_nil] at hides
      exact ⟨[mark], _, hides, own⟩

/-! ### Shapes -/

/-- No sign is a separator. -/
theorem shows_sign {sign : Text} (mem : sign ∈ Simulation.signs) : Shows sign sign := by
  have bare : ∀ sign ∈ Simulation.signs,
      startsWithLetter sign = false ∧ withoutSeparators sign = sign := by decide
  obtain ⟨noLetter, bare⟩ := bare sign mem
  exact ⟨Simulation.units_of_mem_signs (List.mem_cons_of_mem _ mem), noLetter, bare⟩

/-- A vector shows what it shows when it is written, but for a mark behind its command. -/
theorem takes_vector : (vector limit).Takes fun v shown => Shows v.render shown := by
  have opening : Shows ['('] ['('] := shows_sign (by decide)
  have closing : Shows [')'] [')'] := shows_sign (by decide)
  refine (takes_shapeCommand (by decide)).bind fun _ => (takes_token opening .inline).bind fun _ =>
    takes_nonterminal.bind fun n => (takes_token closing .inline).bind fun _ => .pure ?_
  rintro _ rfl element elementShows _ rfl name nameShows
  have whole := ((nameShows.append opening).append elementShows).append closing
  simpa [Vector.render, Written.vector, Written.name] using whole

/-- A vector in brackets shows what it shows when it is written. -/
theorem takes_bracedVector : (bracedVector limit).Takes fun b shown => Shows b.render shown := by
  have opening : Shows ['['] ['['] := shows_sign (by decide)
  have closing : Shows [']'] [']'] := shows_sign (by decide)
  refine (takes_token opening .inline).bind fun _ => takes_vector.bind fun v =>
    (takes_token closing .inline).bind fun _ => .pure ?_
  rintro _ rfl inner innerShows _ rfl
  have whole := (opening.append innerShows).append closing
  simpa [BracedVector.render, Written.bracedVector] using whole

/-- A space between two texts shows nothing. -/
theorem shows_space : Shows [' '] [] := ⟨.char (by decide) .nil, rfl, by decide⟩

/-- An arrow shows what it shows when it is written, but for a mark behind its command. -/
theorem takes_arrow : (arrow limit).Takes fun a shown => Shows a.render shown := by
  refine takes_nonterminal.bind fun source => (takes_shapeCommand (by decide)).bind fun _ =>
    takes_nonterminal.bind fun target => .pure ?_
  intro target targetShows name nameShows source sourceShows
  have whole := (((sourceShows.append shows_space).append nameShows).append shows_space).append
    targetShows
  simpa [Arrow.render, Written.arrow, Written.name] using whole

/-- The value of a field shows what it shows when it is written. -/
theorem takes_fieldValue : (fieldValue limit).Takes fun value shown =>
    Shows value.render shown := by
  refine Takes.firstOf fun p mem => ?_
  simp only [List.mem_cons, List.not_mem_nil, or_false] at mem
  rcases mem with rfl | rfl
  · exact .map (f := FieldValue.vector) takes_vector
  · exact .map (f := FieldValue.nonterminal) takes_nonterminal

/-- A field shows its key and its value. -/
theorem takes_recordField : (recordField limit).Takes fun field shown =>
    Shows (field.1.render ++ ' ' :: field.2.render) shown := by
  refine (takes_skip .separators).bind fun _ => takes_terminal.bind fun key =>
    takes_fieldValue.bind fun value => (takes_skip .separators).bind fun _ => .pure ?_
  rintro _ rfl value valueShows key keyShows _ rfl
  have whole := (keyShows.append shows_space).append valueShows
  simpa using whole

/-- A record shows what it shows when it is written. -/
theorem takes_record : (record limit).Takes fun r shown => Shows r.render shown := by
  have opening : Shows ['\\', '\x7b'] ['\\', '\x7b'] := shows_sign (by decide)
  have closing : Shows ['\\', '\x7d'] ['\\', '\x7d'] := shows_sign (by decide)
  have comma : Shows [','] [','] := shows_sign (by decide)
  refine (takes_token opening .inline).bind fun _ =>
    (takes_recordField.separated1 (takes_literal comma)).bind fun fields =>
      (takes_token closing .inline).bind fun _ => .pure ?_
  rintro _ rfl _ ⟨showns, rfl, each⟩ _ rfl
  have pieces : List.Forall₂ Shows
      (fields.map fun field => field.1.render ++ ' ' :: field.2.render) showns :=
    List.forall₂_map_left_iff.2 each
  have whole := (opening.append ((comma.append shows_space).intercalate pieces)).append closing
  simpa [Record.render, Written.record, Function.comp_def] using whole

/-- A symbol shows what it shows when it is written, whatever its shape. -/
theorem takes_symbol : (symbol limit).Takes fun s shown => Shows s.render shown := by
  refine Takes.firstOf fun p mem => ?_
  simp only [List.mem_cons, List.not_mem_nil, or_false] at mem
  rcases mem with rfl | rfl | rfl | rfl | rfl | rfl
  · exact .map (f := Symbol.record) takes_record
  · exact .map (f := Symbol.arrow) takes_arrow
  · exact .map (f := Symbol.bracedVector) takes_bracedVector
  · exact .map (f := Symbol.vector) takes_vector
  · exact .map (f := Symbol.nonterminal) takes_nonterminal
  · exact .map (f := Symbol.terminal) takes_terminal

end Parser

end MathGrammar
