import MathGrammar.Proofs.Symbol.Readable

/-! # Symbols are read back

A readable symbol, with spacing behind it, is read back from its written form. The alternatives are
tried in a fixed order, so for each shape the ones before it must refuse the text: most do at its
first characters, and an arrow at what stands behind its first nonterminal. -/

namespace MathGrammar

open Spacing

/-- Spacing that ends a command in front of the text behind it. -/
structure Gap (spaces after : Text) : Prop where
  /-- All of it is skipped, and nothing more. -/
  run : Spacing.inline.runLength (spaces ++ after) = spaces.length
  /-- The command does not go on with it. -/
  stops : (spaces ++ after).HeadNot continuesCommand

/-- A space ends a command in front of what starts with no spacing. -/
theorem Gap.space {after : Text} (none : Spacing.inline.tokenLength after = 0) :
    Gap [' '] after where
  run := by rw [runLength_append (.char (by decide) rfl after), runLength_eq_zero none]; rfl
  stops := by rintro c ⟨⟩; decide

/-- Nothing is needed in front of what continues no command and starts with no spacing. -/
theorem Gap.nothing {after : Text} (none : Spacing.inline.tokenLength after = 0)
    (stops : after.HeadNot continuesCommand) : Gap [] after where
  run := runLength_eq_zero none
  stops := stops

/-- A written name with anything but a letter or digit behind it is no spacing. -/
theorem tokenLength_written {spacing : Spacing} {name : Text} (repetition : Option Repetition)
    {after : Text} (named : isCommandName name = true) (head : after.HeadNot Char.isAlphanum) :
    spacing.tokenLength (Written.name name repetition ++ after) = 0 := by
  rw [Written.name, List.cons_append, List.append_assoc]
  exact tokenLength_eq_zero_of_isCommandName named
    (Parser.headNot_suffix repetition (by decide) head)

namespace Parser

variable {limit : Nat} {spaces after : Text}

/-! ### Commands by their names -/

/-- A name with its mark is read back as a command of that name. -/
theorem reads_written (positive : 0 < limit) {name : Text} (repetition : Option Repetition)
    (named : isName name = true) (gap : Gap spaces after) :
    (command limit).Reads (Written.name name repetition ++ spaces) ⟨name, [], [], repetition⟩
      after := by
  have formed : (⟨name, [], [], repetition⟩ : Command).wellFormed = true := by
    rw [Command.wellFormed, named]
    rfl
  have written : (⟨name, [], [], repetition⟩ : Command).render = Written.name name repetition := by
    simp [Command.render, Command.renderParams, Argument.renderAll, Written.name]
  have reads := reads_command formed positive gap.run gap.stops
  rwa [written] at reads

/-- A command of a given name is read back from the name. -/
theorem reads_named (positive : 0 < limit) {kind : FaultKind} {name : Text}
    (named : isName name = true)
    (gap : Gap spaces after) :
    (commandNamed limit kind name).Reads (Written.name name none ++ spaces) ⟨name, [], [], none⟩
      after :=
  (reads_written positive none named gap).judge (if_pos rfl)

/-- A written name is refused where another command is wanted. -/
theorem named_refuses_written (positive : 0 < limit) {kind : FaultKind} {name other : Text}
    {repetition : Option Repetition} (named : isName name = true) (gap : Gap spaces after)
    (ne : name ≠ other) (recoverable : kind.recoverable = true) :
    (commandNamed limit kind other).Refuses (Written.name name repetition ++ spaces ++ after) :=
  (reads_written positive repetition named gap).judge_refuses (if_neg ne) recoverable

/-- A readable nonterminal is read back with the gap behind it. -/
theorem reads_nonterminal (positive : 0 < limit) {n : Nonterminal} (readable : n.readable = true)
    (gap : Gap spaces after) : (nonterminal limit).Reads (n.render ++ spaces) n after := by
  obtain ⟨named, lower, ordinary⟩ := Nonterminal.readable_iff.1 readable
  have notEscape : n.name ≠ nonterminalEscape := by
    rintro escape
    rw [escape] at lower
    exact absurd lower (by decide)
  refine (reads_written positive n.repetition (isName_of_isCommandName named) gap).judge ?_
  rw [Command.toNonterminal, if_neg (by simpa using ordinary), Command.nonterminalName,
    if_neg notEscape, if_pos lower]
  rfl

/-- A readable terminal is read back with the gap behind it. -/
theorem reads_terminal (positive : 0 < limit) {t : Terminal} (readable : t.readable = true)
    (gap : Gap spaces after) : (terminal limit).Reads (t.render ++ spaces) t after := by
  obtain ⟨named, upper, notEscape, -⟩ := Terminal.readable_iff.1 readable
  refine (reads_written positive t.repetition (isName_of_isCommandName named) gap).judge ?_
  rw [Command.toTerminal, Command.terminalName, if_neg notEscape, if_pos upper]
  rfl

/-- A terminal with a letter is no nonterminal. -/
theorem nonterminal_refuses_terminal (positive : 0 < limit) {t : Terminal}
    (readable : t.readable = true) (notLower : t.name.lettersLower = false)
    (gap : Gap spaces after) : (nonterminal limit).Refuses (t.render ++ spaces ++ after) := by
  obtain ⟨named, -, -, notEscape⟩ := Terminal.readable_iff.1 readable
  have rejected : Command.toNonterminal ⟨t.name, [], [], t.repetition⟩
      = .error ⟨.unclassifiable, .nonterminal⟩ := by
    rw [Command.toNonterminal]
    split
    · rfl
    · rw [Command.nonterminalName, if_neg notEscape, if_neg (by simp [notLower])]
      rfl
  exact (reads_written positive t.repetition (isName_of_isCommandName named) gap).judge_refuses
    rejected rfl

/-! ### Shapes -/

/-- A vector is read back when its element is readable. -/
theorem reads_vector (positive : 0 < limit) {v : Vector} (readable : v.element.readable = true)
    (run : Spacing.inline.runLength (spaces ++ after) = spaces.length) :
    (vector limit).Reads (v.render ++ spaces) v after := by
  have layout : v.render ++ spaces = (Written.name ['v', 'e', 'c'] none ++ [])
      ++ ((['('] ++ []) ++ ((v.element.render ++ []) ++ ([')'] ++ spaces))) := by
    simp [Vector.render, Written.vector, Written.name]
  obtain ⟨named, -, -⟩ := Nonterminal.readable_iff.1 readable
  rw [layout]
  refine (reads_named positive rfl (.nothing rfl (by rintro c ⟨⟩; decide))).bind
    ((reads_token ['('] ?_).bind ((reads_nonterminal positive readable (.nothing rfl
      (by rintro c ⟨⟩; decide))).bind ((reads_token [')'] run).bind_last (.pure _ _))))
  simp only [List.nil_append, List.append_nil, List.append_assoc, List.length_nil]
  exact runLength_eq_zero (tokenLength_written _ named (by rintro c ⟨⟩; decide))

/-- A vector in brackets is read back when its element is readable. -/
theorem reads_bracedVector (positive : 0 < limit) {b : BracedVector}
    (readable : b.vector.element.readable = true)
    (run : Spacing.inline.runLength (spaces ++ after) = spaces.length) :
    (bracedVector limit).Reads (b.render ++ spaces) b after := by
  have layout :
    b.render ++ spaces = (['['] ++ []) ++ ((b.vector.render ++ []) ++ ([']'] ++ spaces)) := by
    simp [BracedVector.render, Written.bracedVector]
  rw [layout]
  exact (reads_token ['['] (runLength_eq_zero rfl)).bind
    ((reads_vector positive readable (runLength_eq_zero rfl)).bind
      ((reads_token [']'] run).bind_last (.pure _ _)))

/-- An arrow is read back when its two sides are readable. -/
theorem reads_arrow (positive : 0 < limit) {a : Arrow} (source : a.source.readable = true)
    (target : a.target.readable = true) (gap : Gap spaces after) :
    (arrow limit).Reads (a.render ++ spaces) a after := by
  have layout : a.render ++ spaces = (a.source.render ++ [' '])
      ++ ((Written.name ['t', 'o'] none ++ [' ']) ++ (a.target.render ++ spaces)) := by
    simp [Arrow.render, Written.arrow, Written.name]
  obtain ⟨named, -, -⟩ := Nonterminal.readable_iff.1 target
  rw [layout]
  refine (reads_nonterminal positive source (.space rfl)).bind
    ((reads_named positive rfl (.space ?_)).bind
      ((reads_nonterminal positive target gap).bind_last (.pure _ _)))
  rw [List.append_assoc]
  exact tokenLength_written _ named (gap.stops.mono fun c alphanumeric => by
    simp [continuesCommand, alphanumeric])

/-! ### Records -/

/-- A nonterminal is no vector when no parenthesis opens behind it, not even one of that name. -/
theorem vector_refuses_nonterminal (positive : 0 < limit) {n : Nonterminal}
    (readable : n.readable = true) (gap : Gap spaces after) (noParen : ¬['('] <+: after) :
    (vector limit).Refuses (n.render ++ spaces ++ after) := by
  obtain ⟨named, -, -⟩ := Nonterminal.readable_iff.1 readable
  have isName := isName_of_isCommandName named
  -- A nonterminal may be named like the command of a vector.
  by_cases vec : n.name = ['v', 'e', 'c']
  · have reads : (commandNamed limit .unclassifiable ['v', 'e', 'c']).Reads (n.render ++ spaces)
        ⟨n.name, [], [], n.repetition⟩ after :=
      (reads_written positive n.repetition isName gap).judge (if_pos vec)
    exact reads.bind_refuses ((refuses_token noParen).bind _)
  · exact (named_refuses_written positive isName gap vec rfl).bind _

/-- The value of a field is read back where no parenthesis follows, which would make it a vector. -/
theorem reads_fieldValue (positive : 0 < limit) {value : FieldValue}
    (readable : value.readable = true) (gap : Gap [] after) (noParen : ¬['('] <+: after) :
    (fieldValue limit).Reads value.render value after := by
  cases value with
  | vector v =>
      have reads : (vector limit).Reads (v.render ++ []) v after :=
        reads_vector positive readable gap.run
      rw [List.append_nil] at reads
      exact (reads.map _).firstOf
  | nonterminal n =>
      have reads : (nonterminal limit).Reads (n.render ++ []) n after :=
        reads_nonterminal positive readable gap
      have refused : (vector limit).Refuses (n.render ++ [] ++ after) :=
        vector_refuses_nonterminal positive readable gap noParen
      rw [List.append_nil] at reads refused
      exact (refused.map _).firstOf_reads (reads.map _).firstOf

/-- A field as it is written. -/
def fieldText (field : Terminal × FieldValue) : Text := field.1.render ++ ' ' :: field.2.render

/-- What ends a field: neither spacing nor anything that its value goes on with. -/
structure FieldEnd (after : Text) : Prop where
  /-- It is no spacing. -/
  none : Spacing.separators.tokenLength after = 0
  /-- It continues no value. -/
  stops : after.HeadNot fun c => continuesCommand c || c == '('

/-- What ends a field ends the command in front of it. -/
theorem FieldEnd.gap (ends : FieldEnd after) : Gap [] after :=
  .nothing (tokenLength_inline_of_separators ends.none)
    (ends.stops.mono fun c continues => by simp [continues])

/-- What ends a field is no parenthesis. -/
theorem FieldEnd.noParen (ends : FieldEnd after) : ¬['('] <+: after := by
  rintro ⟨rest, rfl⟩
  exact absurd (ends.stops '(' rfl) (by decide)

/-- A field is read back with the separators in front of it. -/
theorem reads_recordField (positive : 0 < limit) {field : Terminal × FieldValue} {lead : Text}
    (key : field.1.readable = true) (value : field.2.readable = true) (ends : FieldEnd after)
    (leads : Spacing.separators.Tokens lead (fieldText field ++ after)) :
    (recordField limit).Reads (lead ++ fieldText field) field after := by
  obtain ⟨t, v⟩ := field
  obtain ⟨named, -⟩ := Terminal.readable_iff.1 key
  have layout : fieldText (t, v) = (t.render ++ [' ']) ++ (v.render ++ []) := by simp [fieldText]
  -- The key ends the separators in front, and the value ends the space behind the key.
  have first : Spacing.separators.tokenLength (fieldText (t, v) ++ after) = 0 := by
    rw [fieldText, Terminal.render, List.append_assoc]
    exact tokenLength_written t.repetition named (by rintro c ⟨⟩; decide)
  have valueFirst : Spacing.inline.tokenLength (v.render ++ ([] ++ after)) = 0 := by
    cases v with
    | vector v => rfl
    | nonterminal n =>
        obtain ⟨named, -, -⟩ := Nonterminal.readable_iff.1 value
        exact tokenLength_written n.repetition named
          (ends.stops.mono fun c alphanumeric => by simp [continuesCommand, alphanumeric])
  have skipLead := reads_skip (leads.runLength_append first)
  rw [layout] at skipLead ⊢
  exact skipLead.bind ((reads_terminal positive key (.space (by rwa [List.append_assoc]))).bind
    ((reads_fieldValue positive value ends.gap ends.noParen).bind
      ((reads_skip (runLength_eq_zero ends.none)).bind_last (.pure _ _))))

/-- The fields behind the first one, each with a comma and a space in front. -/
def otherFields (fields : List (Terminal × FieldValue)) : Text :=
  (fields.map fieldText).flatMap ([',', ' '] ++ ·)

/-- The fields behind commas end the field in front of them, and so does the closing brace. -/
theorem fieldEnd_otherFields (fields : List (Terminal × FieldValue)) (after : Text) :
    FieldEnd (otherFields fields ++ '\\' :: '\x7d' :: after) := by
  cases fields with
  | nil => exact ⟨rfl, by rintro c ⟨⟩; decide⟩
  | cons field fields => exact ⟨rfl, by rintro c ⟨⟩; decide⟩

/-- The fields behind commas are read back up to the closing brace. -/
theorem reads_otherFields (positive : 0 < limit) {fields : List (Terminal × FieldValue)}
    (readable : ∀ field ∈ fields, field.1.readable = true ∧ field.2.readable = true)
    (after : Text) :
    (behindSeparators (recordField limit) (literal [','])).Reads (otherFields fields) fields
      ('\\' :: '\x7d' :: after) := by
  induction fields with
  | nil => exact Refuses.behindSeparators (Refuses.bind _ (refuses_literal (by rintro ⟨_, ⟨⟩⟩)))
  | cons field fields ih =>
      obtain ⟨key, value⟩ := readable field List.mem_cons_self
      have others := ih fun other mem => readable other (List.mem_cons_of_mem _ mem)
      have space : Spacing.separators.Tokens ([' '] ++ [])
          (fieldText field ++ (otherFields fields ++ '\\' :: '\x7d' :: after)) :=
        .cons (.char (by decide) rfl _) (.nil _)
      have spaced := reads_recordField positive key value (fieldEnd_otherFields fields after) space
      have first : (literal [','] >>= fun _ => recordField limit).Reads
          ([','] ++ (([' '] ++ []) ++ fieldText field)) field
          (otherFields fields ++ '\\' :: '\x7d' :: after) :=
        (reads_literal [','] _).bind spaced
      exact first.behindSeparators (List.cons_ne_nil _ _) others

/-- A readable record is read back with the spacing behind it. -/
theorem reads_record (positive : 0 < limit) {r : Record} (readable : r.readable = true)
    (run : Spacing.inline.runLength (spaces ++ after) = spaces.length) :
    (record limit).Reads (r.render ++ spaces) r after := by
  obtain ⟨fields⟩ := r
  rw [Record.readable, Bool.and_eq_true] at readable
  obtain ⟨nonempty, all⟩ := readable
  cases fields with
  | nil => simp at nonempty
  | cons field fields =>
      have each : ∀ other ∈ field :: fields, other.1.readable = true ∧ other.2.readable = true := by
        intro other mem
        simpa using List.all_eq_true.1 all other mem
      obtain ⟨key, value⟩ := each field List.mem_cons_self
      have layout : (⟨field :: fields⟩ : Record).render ++ spaces
          = (['\\', '\x7b'] ++ []) ++ ((([] ++ fieldText field) ++ otherFields fields)
            ++ (['\\', '\x7d'] ++ spaces)) := by
        have written : ∀ field : Terminal × FieldValue,
            field.1.render ++ ' ' :: field.2.render = fieldText field := fun _ => rfl
        simp [Record.render, Written.record, intercalate_cons, otherFields, Function.comp_def,
          written]
      have first := reads_recordField positive key value
        (fieldEnd_otherFields fields (spaces ++ after)) (.nil _)
      have others := reads_otherFields positive
        (fun other mem => each other (List.mem_cons_of_mem _ mem)) (spaces ++ after)
      rw [layout]
      refine (reads_token ['\\', '\x7b'] ?_).bind ((first.separated1 others).bind
        ((reads_token ['\\', '\x7d'] run).bind_last (.pure _ _)))
      obtain ⟨named, -⟩ := Terminal.readable_iff.1 key
      simp only [List.nil_append, List.append_assoc, fieldText]
      exact runLength_eq_zero (tokenLength_written _ named (by rintro c ⟨⟩; decide))

/-! ### Symbols -/

/-- The rest of an arrow behind its first nonterminal. -/
def arrowRest (limit : Nat) : Parser Nonterminal :=
  commandNamed limit .unclassifiable ['t', 'o'] >>= fun _ => nonterminal limit

/-- An arrow is its source and what follows it. -/
theorem arrow_eq (limit : Nat) :
    arrow limit = nonterminal limit >>= fun source => (arrowRest limit).map (⟨source, ·⟩) := by
  funext cursor
  simp only [arrow, arrowRest, bind_apply, map]
  congr 1
  funext source after
  cases commandNamed limit .unclassifiable ['t', 'o'] after <;> rfl

/-- A nonterminal that no rest of an arrow follows is no arrow. -/
theorem arrow_refuses {text : Text} {n : Nonterminal}
    (first : (nonterminal limit).Reads text n after) (alone : (arrowRest limit).Refuses after) :
    (arrow limit).Refuses (text ++ after) := by
  rw [arrow_eq]
  exact first.bind_refuses (alone.map _)

/-- Where no command follows a nonterminal there is no arrow. -/
theorem arrowRest_refuses_of_command {text : Text} (refused : (command limit).Refuses text) :
    (arrowRest limit).Refuses text :=
  (refused.judge _).bind _

/-- What starts with no opening brace is no record. -/
theorem record_refuses {text : Text} (noBrace : ¬['\\', '\x7b'] <+: text) :
    (record limit).Refuses text :=
  (refuses_token noBrace).bind _

/-- What starts with no bracket is no vector in brackets. -/
theorem bracedVector_refuses {text : Text} (noBracket : ¬['['] <+: text) :
    (bracedVector limit).Refuses text :=
  (refuses_token noBracket).bind _

/-- A text that starts with a backslash and a name opens neither a record nor a braced vector. -/
theorem noSign_written {name : Text} (named : isName name = true)
    (repetition : Option Repetition) (after : Text) :
    ¬['\\', '\x7b'] <+: Written.name name repetition ++ after ∧
      ¬['['] <+: Written.name name repetition ++ after := by
  obtain ⟨c, name, rfl⟩ := List.exists_cons_of_ne_nil (ne_nil_of_isName named)
  have alphanumeric := List.all_eq_true.1 (all_of_isName named) c List.mem_cons_self
  constructor
  · rintro ⟨rest, text_eq⟩
    obtain ⟨rfl, -⟩ := List.cons.inj (List.cons.inj text_eq).2
    exact absurd alphanumeric (by decide)
  · rintro ⟨rest, text_eq⟩
    exact absurd (List.cons.inj text_eq).1 (by decide)

/-- A vector is read back. Its command is a nonterminal by itself, but a parenthesis opens behind it
where an arrow would have its own command. -/
theorem reads_symbol_vector (positive : 0 < limit) {v : Vector}
    (readable : v.element.readable = true)
    (run : Spacing.inline.runLength (spaces ++ after) = spaces.length) :
    (symbol limit).Reads (v.render ++ spaces) (.vector v) after := by
  have written : v.render ++ spaces ++ after = (Written.name ['v', 'e', 'c'] none ++ [])
      ++ ('(' :: (v.element.render ++ [')'] ++ spaces ++ after)) := by
    simp [Vector.render, Written.vector, Written.name]
  have first : (nonterminal limit).Reads (Written.name ['v', 'e', 'c'] none ++ [])
      ⟨['v', 'e', 'c'], none⟩ ('(' :: (v.element.render ++ [')'] ++ spaces ++ after)) :=
    reads_nonterminal (n := ⟨['v', 'e', 'c'], none⟩) positive (by decide)
      (.nothing rfl (by rintro c ⟨⟩; decide))
  have noArrow : (arrow limit).Refuses (v.render ++ spaces ++ after) := by
    rw [written]
    exact arrow_refuses first (arrowRest_refuses_of_command
      (refuses_command_of_head limit (by rintro c ⟨⟩; decide)))
  exact ((record_refuses (by rintro ⟨_, ⟨⟩⟩)).map _).firstOf_reads
    ((noArrow.map _).firstOf_reads
      (((bracedVector_refuses (by rintro ⟨_, ⟨⟩⟩)).map _).firstOf_reads
        ((reads_vector positive readable run).map _).firstOf))

/-- A nonterminal is read back when it is neither the start of an arrow nor that of a vector. -/
theorem reads_symbol_nonterminal (positive : 0 < limit) {n : Nonterminal}
    (readable : n.readable = true) (gap : Gap spaces after) (noParen : ¬['('] <+: after)
    (alone : (arrowRest limit).Refuses after) :
    (symbol limit).Reads (n.render ++ spaces) (.nonterminal n) after := by
  obtain ⟨named, -, -⟩ := Nonterminal.readable_iff.1 readable
  obtain ⟨noBrace, noBracket⟩ :=
    noSign_written (isName_of_isCommandName named) n.repetition (spaces ++ after)
  rw [← List.append_assoc] at noBrace noBracket
  have reads := reads_nonterminal positive readable gap
  have noArrow := arrow_refuses reads alone
  have noVector := vector_refuses_nonterminal positive readable gap noParen
  exact ((record_refuses noBrace).map _).firstOf_reads
    ((noArrow.map _).firstOf_reads
      (((bracedVector_refuses noBracket).map _).firstOf_reads
        ((noVector.map _).firstOf_reads (reads.map _).firstOf)))

/-- A terminal is read back when it has a letter, by which every other shape refuses it. -/
theorem reads_symbol_terminal (positive : 0 < limit) {t : Terminal} (readable : t.readable = true)
    (notLower : t.name.lettersLower = false) (gap : Gap spaces after) :
    (symbol limit).Reads (t.render ++ spaces) (.terminal t) after := by
  obtain ⟨named, -, -⟩ := Terminal.readable_iff.1 readable
  have isName := isName_of_isCommandName named
  obtain ⟨noBrace, noBracket⟩ := noSign_written isName t.repetition (spaces ++ after)
  rw [← List.append_assoc] at noBrace noBracket
  have noNonterminal := nonterminal_refuses_terminal positive readable notLower gap
  have notVec : t.name ≠ ['v', 'e', 'c'] := by
    intro vec
    rw [vec] at notLower
    exact absurd notLower (by decide)
  have noVector : (vector limit).Refuses (t.render ++ spaces ++ after) :=
    (named_refuses_written positive isName gap notVec rfl).bind _
  exact ((record_refuses noBrace).map _).firstOf_reads
    (((noNonterminal.bind _).map _).firstOf_reads
      (((bracedVector_refuses noBracket).map _).firstOf_reads
        ((noVector.map _).firstOf_reads ((noNonterminal.map _).firstOf_reads
          ((reads_terminal positive readable gap).map _).firstOf))))

/-- A readable symbol is read back; behind a nonterminal there must not be the rest of an arrow. -/
theorem reads_symbol (positive : 0 < limit) {s : Symbol} (readable : s.readable = true)
    (gap : Gap spaces after) (noParen : ¬['('] <+: after)
    (alone : ∀ n, s = .nonterminal n → (arrowRest limit).Refuses after) :
    (symbol limit).Reads (s.render ++ spaces) s after := by
  cases s with
  | record r => exact ((reads_record positive readable gap.run).map _).firstOf
  | vector v => exact reads_symbol_vector positive readable gap.run
  | nonterminal n =>
      exact reads_symbol_nonterminal positive readable gap noParen (alone n rfl)
  | terminal t =>
      rw [Symbol.readable, Bool.and_eq_true, Bool.not_eq_true'] at readable
      exact reads_symbol_terminal positive readable.1 readable.2 gap
  | arrow a =>
      rw [Symbol.readable, Bool.and_eq_true] at readable
      obtain ⟨named, -, -⟩ := Nonterminal.readable_iff.1 readable.1
      have written : (Symbol.arrow a).render ++ spaces ++ after
          = Written.name a.source.name a.source.repetition
            ++ ([' ', '\\', 't', 'o', ' '] ++ a.target.render ++ spaces ++ after) := by
        simp [Symbol.render, Arrow.render, Written.arrow, Nonterminal.render]
      obtain ⟨noBrace, -⟩ := noSign_written (isName_of_isCommandName named) a.source.repetition
        ([' ', '\\', 't', 'o', ' '] ++ a.target.render ++ spaces ++ after)
      rw [← written] at noBrace
      exact ((record_refuses noBrace).map _).firstOf_reads
        ((reads_arrow positive readable.1 readable.2 gap).map _).firstOf
  | bracedVector b =>
      -- A bracket opens no command, so nothing that starts with one is read here.
      have noCommand :
        (command limit).Refuses ((Symbol.bracedVector b).render ++ spaces ++ after) :=
        refuses_command_of_head limit (by rintro c ⟨⟩; decide)
      have noArrow : (arrow limit).Refuses ((Symbol.bracedVector b).render ++ spaces ++ after) :=
        (noCommand.judge _).bind _
      exact ((record_refuses (by rintro ⟨_, ⟨⟩⟩)).map _).firstOf_reads
        ((noArrow.map _).firstOf_reads
          ((reads_bracedVector positive readable gap.run).map _).firstOf)

end Parser

end MathGrammar
