import MathGrammar.Proofs.Command.RoundTrip
import MathGrammar.Proofs.Endings
import MathGrammar.Proofs.Progress

/-! # Arguments

An argument is a literal with balanced braces or a command, between two braces. The reader of
literals keeps count of the braces that are open; here a balanced text is told by its own counts,
which is the same as having its braces in pairs, so that what is read is seen to be every such
literal and nothing else. No text starts with a literal and with a command, and therefore the two
can be tried in either order. -/

namespace MathGrammar

/-! ### Balanced braces -/

/-- The text holds plain characters and braces only, and closes as many braces as it opens and
`opened` more, none of them too early. -/
structure Text.Balances (opened : Nat) (text : Text) : Prop where
  /-- There are no other characters. -/
  allowed : ∀ c ∈ text, isLiteralChar c = true ∨ c = '\x7b' ∨ c = '\x7d'
  /-- Nowhere are more braces closed than there were open. -/
  ahead : ∀ part : Text, part <+: text → part.count '\x7d' ≤ opened + part.count '\x7b'
  /-- At the end all of them are closed. -/
  even : text.count '\x7d' = opened + text.count '\x7b'

/-- The characters of the text that are no braces. -/
def Text.withoutBraces (text : Text) : Text := text.filter fun c => c != '\x7b' && c != '\x7d'

namespace Text

variable {opened left : Nat} {text : Text} {c : Char}

/-- Nothing closes no braces. -/
theorem balances_nil_iff : Balances opened [] ↔ opened = 0 := by
  constructor
  · intro balances
    exact balances.even.symm
  · rintro rfl
    refine ⟨nofun, fun part first => ?_, rfl⟩
    obtain rfl := List.prefix_nil.1 first
    exact Nat.le_refl 0

/-- Behind a character as many braces are open as there were, the character counted. -/
theorem balances_cons_iff (allowed : isLiteralChar c = true ∨ c = '\x7b' ∨ c = '\x7d')
    (count : left + [c].count '\x7d' = opened + [c].count '\x7b') :
    Balances opened (c :: text) ↔ Balances left text := by
  have closing (part : Text) : (c :: part).count '\x7d' = [c].count '\x7d' + part.count '\x7d' := by
    rw [← List.singleton_append, List.count_append]
  have opening (part : Text) : (c :: part).count '\x7b' = [c].count '\x7b' + part.count '\x7b' := by
    rw [← List.singleton_append, List.count_append]
  constructor
  · rintro ⟨all, ahead, even⟩
    refine ⟨fun d mem => all d (List.mem_cons_of_mem c mem), fun part first => ?_, ?_⟩
    · have later := ahead (c :: part) (List.cons_prefix_cons.2 ⟨rfl, first⟩)
      rw [closing part, opening part] at later
      omega
    · rw [closing text, opening text] at even
      omega
  · rintro ⟨all, ahead, even⟩
    refine ⟨List.forall_mem_cons.2 ⟨allowed, all⟩, fun part first => ?_, ?_⟩
    · rcases List.prefix_cons_iff.1 first with rfl | ⟨part, rfl, behind⟩
      · exact Nat.zero_le _
      · have earlier := ahead part behind
        rw [closing part, opening part]
        omega
    · rw [closing text, opening text]
      omega

/-- A plain character leaves as many braces open as there were. -/
theorem balances_char_iff (plain : isLiteralChar c = true) :
    Balances opened (c :: text) ↔ Balances opened text := by
  obtain ⟨notOpening, notClosing, -⟩ := ne_of_isLiteralChar plain
  refine balances_cons_iff (.inl plain) ?_
  rw [List.count_singleton, List.count_singleton]
  simp [notOpening, notClosing]

/-- An opening brace leaves one brace more open. -/
theorem balances_opening_iff :
    Balances opened ('\x7b' :: text) ↔ Balances (opened + 1) text :=
  balances_cons_iff (.inr (.inl rfl)) rfl

/-- A closing brace leaves one brace less open. -/
theorem balances_closing_iff :
    Balances (opened + 1) ('\x7d' :: text) ↔ Balances opened text :=
  balances_cons_iff (.inr (.inr rfl)) rfl

/-- Where no brace is open none can be closed. -/
theorem not_balances_zero_closing : ¬Balances 0 ('\x7d' :: text) := fun balances =>
  absurd (balances.ahead ['\x7d'] (List.prefix_append ['\x7d'] text)) (by decide)

end Text

/-! ### Scanning -/

/-- What is scanned is a balanced text with a brace behind it. -/
theorem exists_balanced_of_scanLiteral? {opened length : Nat} {text content : Text}
    (scanned : scanLiteral? opened text = some (content, length)) :
    ∃ literal after, text = literal ++ '\x7d' :: after ∧ literal.Balances opened := by
  induction text generalizing opened content length with
  | nil => exact nomatch scanned
  | cons c text ih =>
      by_cases opening : c = '\x7b'
      · subst opening
        rw [scanLiteral?_opening] at scanned
        obtain ⟨⟨inner, count⟩, found, -⟩ := Option.map_eq_some_iff.1 scanned
        obtain ⟨literal, after, rfl, balances⟩ := ih found
        exact ⟨'\x7b' :: literal, after, rfl, Text.balances_opening_iff.2 balances⟩
      by_cases closing : c = '\x7d'
      · subst closing
        cases opened with
        | zero => exact ⟨[], text, rfl, Text.balances_nil_iff.2 rfl⟩
        | succ opened =>
            rw [scanLiteral?_closing_succ] at scanned
            obtain ⟨⟨inner, count⟩, found, -⟩ := Option.map_eq_some_iff.1 scanned
            obtain ⟨literal, after, rfl, balances⟩ := ih found
            exact ⟨'\x7d' :: literal, after, rfl, Text.balances_closing_iff.2 balances⟩
      · rw [scanLiteral?_other opened opening closing] at scanned
        by_cases plain : isLiteralChar c = true
        · rw [if_pos plain] at scanned
          obtain ⟨⟨inner, count⟩, found, -⟩ := Option.map_eq_some_iff.1 scanned
          obtain ⟨literal, after, rfl, balances⟩ := ih found
          exact ⟨c :: literal, after, rfl, (Text.balances_char_iff plain).2 balances⟩
        · rw [if_neg plain] at scanned
          exact nomatch scanned

/-! ### Pairs of braces -/

/-- A balanced text is a text with braces in pairs, and behind one that closes braces of others
there is such a text up to the first of these. -/
theorem Text.Balances.exists_balancedLiteral {opened : Nat} {text : Text}
    (balances : text.Balances opened) : match opened with
      | 0 => ∃ content, BalancedLiteral text content
      | outer + 1 => ∃ inside content more, text = inside ++ '\x7d' :: more ∧
          BalancedLiteral inside content ∧ Text.Balances outer more := by
  -- On the length, since what stands behind an inner pair is split once more.
  induction length_eq : text.length using Nat.strongRecOn generalizing opened text with
  | ind n ih =>
      cases text with
      | nil =>
          obtain rfl := balances_nil_iff.1 balances
          exact ⟨[], .nil⟩
      | cons c text =>
          rw [List.length_cons] at length_eq
          have shorter : text.length < n := by omega
          rcases balances.allowed c List.mem_cons_self with plain | rfl | rfl
          · have rest := ih _ shorter ((balances_char_iff plain).1 balances) rfl
            cases opened with
            | zero =>
                obtain ⟨content, literal⟩ := rest
                exact ⟨c :: content, .char plain literal⟩
            | succ outer =>
                obtain ⟨inside, content, more, rfl, literal, behind⟩ := rest
                exact ⟨c :: inside, c :: content, more, rfl, .char plain literal, behind⟩
          · obtain ⟨inside, content, more, rfl, literal, behind⟩ :=
              ih _ shorter (balances_opening_iff.1 balances) rfl
            rw [List.length_append, List.length_cons] at shorter
            have rest := ih more.length (by omega) behind rfl
            cases opened with
            | zero =>
                obtain ⟨others, second⟩ := rest
                exact ⟨content ++ others, .braces literal second⟩
            | succ outer =>
                obtain ⟨second, others, last, rfl, secondLiteral, behind⟩ := rest
                refine ⟨'\x7b' :: (inside ++ '\x7d' :: second), content ++ others, last, ?_,
                  .braces literal secondLiteral, behind⟩
                simp
          · cases opened with
            | zero => exact absurd balances not_balances_zero_closing
            | succ outer => exact ⟨[], [], text, rfl, .nil, balances_closing_iff.1 balances⟩

/-- The content of a literal is what its braces leave of it. -/
theorem BalancedLiteral.content_eq {text content : Text} (literal : BalancedLiteral text content) :
    content = text.withoutBraces := by
  induction literal with
  | nil => rfl
  | @char c text content plain _ ih =>
      obtain ⟨notOpening, notClosing, -⟩ := ne_of_isLiteralChar plain
      rw [ih]
      simp [Text.withoutBraces, notOpening, notClosing]
  | braces _ _ insideIH moreIH =>
      rw [insideIH, moreIH]
      simp [Text.withoutBraces]

/-- **Braces in pairs are braces in balance.** A text is balanced by its counts if and only if its
braces come in pairs, and its content is what the braces leave of it. -/
theorem balancedLiteral_iff {text content : Text} :
    BalancedLiteral text content ↔ text.Balances 0 ∧ content = text.withoutBraces := by
  constructor
  · intro literal
    have scanned := literal.scanLiteral?_closed []
    obtain ⟨other, after, text_eq, balances⟩ := exists_balanced_of_scanLiteral? scanned
    obtain ⟨_, otherLiteral⟩ := balances.exists_balancedLiteral
    -- The text that was counted ends at the same brace.
    rw [text_eq, otherLiteral.scanLiteral?_closed] at scanned
    obtain ⟨-, length_eq⟩ := Prod.mk.inj (Option.some.inj scanned)
    obtain ⟨rfl, -⟩ := List.append_inj text_eq (by omega)
    exact ⟨balances, literal.content_eq⟩
  · rintro ⟨balances, rfl⟩
    obtain ⟨content, literal⟩ := balances.exists_balancedLiteral
    rwa [← literal.content_eq]

/-- A balanced text is scanned as far as the brace behind it. -/
theorem Text.Balances.scanLiteral?_append {literal : Text} (balances : literal.Balances 0)
    (after : Text) : scanLiteral? 0 (literal ++ '\x7d' :: after)
      = some (literal.withoutBraces, literal.length + 1) :=
  (balancedLiteral_iff.2 ⟨balances, rfl⟩).scanLiteral?_closed after

/-- A text starts with one balanced literal at most. -/
theorem Text.Balances.eq_of_prefix {first second text : Text} (firstBalances : first.Balances 0)
    (firstAhead : first ++ ['\x7d'] <+: text) (secondBalances : second.Balances 0)
    (secondAhead : second ++ ['\x7d'] <+: text) : first = second := by
  obtain ⟨firstAfter, rfl⟩ := firstAhead
  obtain ⟨secondAfter, text_eq⟩ := secondAhead
  rw [List.append_assoc, List.append_assoc] at text_eq
  have firstScan := firstBalances.scanLiteral?_append firstAfter
  have secondScan := secondBalances.scanLiteral?_append secondAfter
  -- Both are what is scanned up to the same closing brace.
  rw [show second ++ '\x7d' :: secondAfter = first ++ '\x7d' :: firstAfter from text_eq,
    firstScan] at secondScan
  have length_eq : first.length = second.length := by
    simpa using (Prod.mk.inj (Option.some.inj secondScan)).2
  exact (List.append_inj text_eq length_eq.symm).1.symm

/-! ### The two readers -/

namespace Parser

variable {text literal : Text} {offset last limit : Nat} {inner : Command}

/-- A sign of one character starts the rest when the character stands at the place. -/
theorem isPrefixOf_drop_iff {c : Char} :
    [c].isPrefixOf (text.drop offset) = true ↔ text[offset]? = some c := by
  rw [← List.head?_drop]
  cases text.drop offset with
  | nil => simp
  | cons d rest =>
      simpa using eq_comm

/-- A sign of one character is read where the character stands. -/
theorem literal_singleton (c : Char) (text : Text) (offset : Nat) :
    Parser.literal [c] (.ofOffset text offset) = if text[offset]? = some c then
      .ok () (.ofOffset text (offset + 1))
    else .fail ⟨⟨.unexpectedToken, .token [c]⟩, offset⟩ := by
  unfold Parser.literal
  rw [Cursor.rest_ofOffset]
  by_cases stands : text[offset]? = some c
  · rw [if_pos stands, if_pos (isPrefixOf_drop_iff.2 stands), Cursor.advance_ofOffset]
    rfl
  · rw [if_neg stands, if_neg (mt isPrefixOf_drop_iff.1 stands)]
    rfl

/-- A balanced literal is read up to the brace behind it, without its own braces. -/
theorem literalArgument_of_balances (balances : literal.Balances 0)
    (ahead : literal ++ ['\x7d'] <+: text.drop offset) :
    literalArgument (.ofOffset text offset)
      = .ok (.literal literal.withoutBraces) (.ofOffset text (offset + literal.length + 1)) := by
  obtain ⟨after, rest_eq⟩ := ahead
  rw [List.append_assoc] at rest_eq
  have scanned : scanLiteral? 0 (Cursor.ofOffset text offset).rest
      = some (literal.withoutBraces, literal.length + 1) := by
    rw [Cursor.rest_ofOffset, ← rest_eq]
    exact balances.scanLiteral?_append after
  unfold literalArgument
  rw [scanned]
  exact congrArg _ (Cursor.advance_ofOffset text offset (literal.length + 1))

/-- Where no balanced literal stands the reader of literals fails. -/
theorem literalArgument_of_none
    (none : ∀ literal : Text, literal.Balances 0 → ¬literal ++ ['\x7d'] <+: text.drop offset) :
    literalArgument (.ofOffset text offset)
      = .fail ⟨⟨.unexpectedToken, .token ['\x7d']⟩, offset⟩ := by
  unfold literalArgument
  cases scanned : scanLiteral? 0 (Cursor.ofOffset text offset).rest with
  | none => rfl
  | some found =>
      obtain ⟨literal, after, rest_eq, balances⟩ := exists_balanced_of_scanLiteral? scanned
      refine absurd ⟨after, ?_⟩ (none literal balances)
      rw [List.append_assoc]
      exact rest_eq.symm

/-- Where a literal stands no command does, as no literal starts with a backslash. -/
theorem command_fails_of_balances (limit : Nat) (balances : literal.Balances 0)
    (ahead : literal ++ ['\x7d'] <+: text.drop offset) :
    ∃ fault, command limit (.ofOffset text offset) = .fail fault ∧ fault.recoverable = true := by
  refine refuses_command_of_head limit ?_ offset
  obtain ⟨after, rest_eq⟩ := ahead
  rw [← rest_eq, List.append_assoc]
  exact (balancedLiteral_iff.2 ⟨balances, rfl⟩).headNot_backslash after

/-- A command in braces is read when a brace follows it, and complained about where none does. -/
theorem nestedArgument_of_ok {command : Parser Command}
    (read : command (.ofOffset text offset) = .ok inner (.ofOffset text last)) :
    nestedArgument command (.ofOffset text offset) = if text[last]? = some '\x7d' then
      .ok (.nested inner) (.ofOffset text (last + 1))
    else .fail ⟨⟨.unexpectedToken, .token ['\x7d']⟩, last⟩ := by
  unfold nestedArgument
  rw [bind_apply, read, Outcome.bind_ok, bind_apply, literal_singleton]
  by_cases closed : text[last]? = some '\x7d'
  · rw [if_pos closed, if_pos closed]
    rfl
  · rw [if_neg closed, if_neg closed]
    rfl

/-! ### Arguments -/

/-- Two alternatives of which one fails can be tried in either order. -/
theorem firstOf_swap {α : Type} {p q : Parser α} {cursor : Cursor} {fault : Fault}
    (complaint : Complaint) (failed : p cursor = .fail fault)
    (recoverable : fault.recoverable = true) :
    firstOf [p, q] complaint cursor = firstOf [q, p] complaint cursor := by
  have last : firstOf [p] complaint cursor = firstOf [] complaint cursor :=
    orElse_of_fail failed recoverable
  rw [firstOf_cons, orElse_of_fail failed recoverable, firstOf_cons, firstOf_cons q [p]]
  unfold orElse
  rw [last]

/-- At the place stands a balanced literal in braces. -/
structure HoldsLiteral (text : Text) (offset : Nat) (literal : Text) : Prop where
  /-- A brace opens the argument. -/
  opened : text[offset]? = some '\x7b'
  /-- A brace behind the literal closes it. -/
  closed : literal ++ ['\x7d'] <+: text.drop (offset + 1)
  /-- The braces in between are balanced. -/
  balances : literal.Balances 0

/-- At the place stands a command in braces, which is read as far as `last`. -/
structure HoldsCommand (limit : Nat) (text : Text) (offset : Nat) (inner : Command) (last : Nat) :
    Prop where
  /-- A brace opens the argument. -/
  opened : text[offset]? = some '\x7b'
  /-- The command is read behind it. -/
  read : command limit (.ofOffset text (offset + 1)) = .ok inner (.ofOffset text last)
  /-- A brace behind the command closes it. -/
  closed : text[last]? = some '\x7d'

/-- An argument, with the literal tried before the command. -/
def argumentLiteralFirst (command : Parser Command) : Parser Argument := do
  Parser.literal ['\x7b']
  firstOf [literalArgument, nestedArgument command] ⟨.unexpectedToken, .argument⟩

/-- No place holds a literal and a command, as only the command starts with a backslash. -/
theorem HoldsLiteral.not_holdsCommand (holds : HoldsLiteral text offset literal) :
    ¬HoldsCommand limit text offset inner last := by
  intro command
  obtain ⟨fault, failed, -⟩ := command_fails_of_balances limit holds.balances holds.closed
  rw [command.read] at failed
  exact nomatch failed

/-- Behind the brace the two readers are tried. -/
theorem argument_of_opened (command : Parser Command) (opened : text[offset]? = some '\x7b') :
    argument command (.ofOffset text offset)
      = firstOf [nestedArgument command, literalArgument] ⟨.unexpectedToken, .argument⟩
          (.ofOffset text (offset + 1)) := by
  unfold argument
  rw [bind_apply, literal_singleton, if_pos opened, Outcome.bind_ok]

/-- Without an opening brace there is no argument. -/
theorem argument_of_not_opened (command : Parser Command)
    (notOpened : text[offset]? ≠ some '\x7b') :
    argument command (.ofOffset text offset)
      = .fail ⟨⟨.unexpectedToken, .token ['\x7b']⟩, offset⟩ := by
  unfold argument
  rw [bind_apply, literal_singleton, if_neg notOpened, Outcome.bind_fail]

/-- A literal in braces is read as one, although a command is tried first. -/
theorem argument_of_holdsLiteral (holds : HoldsLiteral text offset literal) :
    argument (command limit) (.ofOffset text offset)
      = .ok (.literal literal.withoutBraces) (.ofOffset text (offset + literal.length + 2)) := by
  obtain ⟨fault, failed, recoverable⟩ :=
    command_fails_of_balances limit holds.balances holds.closed
  have nested : nestedArgument (command limit) (.ofOffset text (offset + 1)) = .fail fault :=
    bind_of_fail failed
  rw [argument_of_opened _ holds.opened, firstOf_cons, orElse_of_fail nested recoverable,
    firstOf_cons, orElse, literalArgument_of_balances holds.balances holds.closed]
  exact congrArg _ (congrArg _ (by omega))

/-- A command in braces is read as one. -/
theorem argument_of_holdsCommand (holds : HoldsCommand limit text offset inner last) :
    argument (command limit) (.ofOffset text offset)
      = .ok (.nested inner) (.ofOffset text (last + 1)) := by
  rw [argument_of_opened _ holds.opened, firstOf_cons, orElse, nestedArgument_of_ok holds.read,
    if_pos holds.closed]

/-- A command in braces that nests too deeply is not made up for. -/
theorem argument_of_tooDeep (opened : text[offset]? = some '\x7b')
    (deep : command limit (.ofOffset text (offset + 1)) = .tooDeep) :
    argument (command limit) (.ofOffset text offset) = .tooDeep := by
  rw [argument_of_opened _ opened, firstOf_cons, orElse, nestedArgument, bind_apply, deep,
    Outcome.bind_tooDeep]

/-- Where neither stands, the fault is placed behind the brace. -/
theorem argument_of_neither (opened : text[offset]? = some '\x7b')
    (noLiteral : ∀ literal, ¬HoldsLiteral text offset literal)
    (noCommand : ∀ inner last, ¬HoldsCommand limit text offset inner last)
    (notDeep : command limit (.ofOffset text (offset + 1)) ≠ .tooDeep) :
    argument (command limit) (.ofOffset text offset)
      = .fail ⟨⟨.unexpectedToken, .argument⟩, offset + 1⟩ := by
  have literalFails : literalArgument (.ofOffset text (offset + 1))
      = .fail ⟨⟨.unexpectedToken, .token ['\x7d']⟩, offset + 1⟩ :=
    literalArgument_of_none fun literal balances ahead =>
      noLiteral literal ⟨opened, ahead, balances⟩
  have nestedFails : ∃ fault, nestedArgument (command limit) (.ofOffset text (offset + 1))
      = .fail fault ∧ fault.recoverable = true := by
    cases run : command limit (.ofOffset text (offset + 1)) with
    | ok inner next =>
        obtain ⟨place, -⟩ := (advances_command limit).place run
        rw [place] at run
        have notClosed : text[next.offset]? ≠ some '\x7d' := fun closed =>
          noCommand inner next.offset ⟨opened, run, closed⟩
        rw [nestedArgument_of_ok run, if_neg notClosed]
        exact ⟨_, rfl, rfl⟩
    | fail fault => exact ⟨fault, bind_of_fail run, failsRecoverably_command limit run⟩
    | tooDeep => exact absurd run notDeep
  obtain ⟨fault, failed, recoverable⟩ := nestedFails
  rw [argument_of_opened _ opened, firstOf_cons, orElse_of_fail failed recoverable, firstOf_cons,
    orElse_of_fail literalFails rfl]
  rfl

/-- How reading an argument ends, by what stands at the place. -/
inductive ArgumentEnds (limit : Nat) (text : Text) (offset : Nat) : Outcome Argument → Prop where
  /-- A literal is read up to the closing brace. -/
  | literal {literal : Text} (holds : HoldsLiteral text offset literal) :
    ArgumentEnds limit text offset
      (.ok (.literal literal.withoutBraces) (.ofOffset text (offset + literal.length + 2)))
  /-- A command is read up to the closing brace. -/
  | nested {inner : Command} {last : Nat} (holds : HoldsCommand limit text offset inner last) :
    ArgumentEnds limit text offset (.ok (.nested inner) (.ofOffset text (last + 1)))
  /-- The command behind the brace nests too deeply. -/
  | tooDeep (opened : text[offset]? = some '\x7b')
    (deep : command limit (.ofOffset text (offset + 1)) = .tooDeep) :
    ArgumentEnds limit text offset .tooDeep
  /-- No brace opens an argument. -/
  | notOpened (notOpened : text[offset]? ≠ some '\x7b') :
    ArgumentEnds limit text offset (.fail ⟨⟨.unexpectedToken, .token ['\x7b']⟩, offset⟩)
  /-- Neither a literal nor a command is enclosed. -/
  | neither (opened : text[offset]? = some '\x7b')
    (noLiteral : ∀ literal, ¬HoldsLiteral text offset literal)
    (noCommand : ∀ inner last, ¬HoldsCommand limit text offset inner last)
    (notDeep : command limit (.ofOffset text (offset + 1)) ≠ .tooDeep) :
    ArgumentEnds limit text offset (.fail ⟨⟨.unexpectedToken, .argument⟩, offset + 1⟩)

/-- Reading an argument ends in one of these ways, as what stands at the place says. -/
theorem argumentEnds (limit : Nat) (text : Text) (offset : Nat) :
    ArgumentEnds limit text offset (argument (command limit) (.ofOffset text offset)) := by
  by_cases opened : text[offset]? = some '\x7b'
  · by_cases holdsLiteral : ∃ literal, HoldsLiteral text offset literal
    · obtain ⟨literal, holds⟩ := holdsLiteral
      rw [argument_of_holdsLiteral holds]
      exact .literal holds
    by_cases holdsCommand : ∃ inner last, HoldsCommand limit text offset inner last
    · obtain ⟨inner, last, holds⟩ := holdsCommand
      rw [argument_of_holdsCommand holds]
      exact .nested holds
    by_cases deep : command limit (.ofOffset text (offset + 1)) = .tooDeep
    · rw [argument_of_tooDeep opened deep]
      exact .tooDeep opened deep
    · have noLiteral := not_exists.1 holdsLiteral
      have noCommand inner last := not_exists.1 (not_exists.1 holdsCommand inner) last
      rw [argument_of_neither opened noLiteral noCommand deep]
      exact .neither opened noLiteral noCommand deep
  · rw [argument_of_not_opened _ opened]
    exact .notOpened opened

/-- The literal may be tried before the command, with the same result at every place. -/
theorem argumentLiteralFirst_eq (limit : Nat) (text : Text) (offset : Nat) :
    argumentLiteralFirst (command limit) (.ofOffset text offset)
      = argument (command limit) (.ofOffset text offset) := by
  unfold argumentLiteralFirst argument
  rw [bind_apply, bind_apply, literal_singleton]
  by_cases opened : text[offset]? = some '\x7b'
  · rw [if_pos opened, Outcome.bind_ok, Outcome.bind_ok]
    by_cases holdsLiteral : ∃ literal, HoldsLiteral text offset literal
    · obtain ⟨literal, holds⟩ := holdsLiteral
      obtain ⟨fault, failed, recoverable⟩ :=
        command_fails_of_balances limit holds.balances holds.closed
      exact (firstOf_swap _ (bind_of_fail failed) recoverable).symm
    · refine firstOf_swap _ (literalArgument_of_none fun literal balances ahead => ?_) rfl
      exact holdsLiteral ⟨literal, opened, ahead, balances⟩
  · rw [if_neg opened, Outcome.bind_fail, Outcome.bind_fail]

/-! ### The main result -/

/-- **Arguments are exactly the balanced literals and the enclosed commands.** Of a literal the
characters without its braces are kept, and the place behind the closing brace is the end of either.
A place holds one balanced literal at most, and no command beside it, so that the order of the two
readers does not matter. Everything else is refused, at the place where the opening brace is missing
or behind that brace, unless the command in the braces nests too deeply. -/
theorem argument_reads_literals_and_commands (limit : Nat) (text : Text) (offset : Nat) :
    (∀ arg next, argument (command limit) (.ofOffset text offset) = .ok arg next ↔
      (∃ literal : Text, HoldsLiteral text offset literal ∧ arg = .literal literal.withoutBraces ∧
        next = .ofOffset text (offset + literal.length + 2)) ∨
      ∃ inner last, HoldsCommand limit text offset inner last ∧ arg = .nested inner ∧
        next = .ofOffset text (last + 1)) ∧
    (∀ first second, HoldsLiteral text offset first → HoldsLiteral text offset second →
      first = second) ∧
    (∀ literal inner last, HoldsLiteral text offset literal →
      ¬HoldsCommand limit text offset inner last) ∧
    argumentLiteralFirst (command limit) (.ofOffset text offset)
      = argument (command limit) (.ofOffset text offset) ∧
    (argument (command limit) (.ofOffset text offset) = .tooDeep ↔
      text[offset]? = some '\x7b' ∧ command limit (.ofOffset text (offset + 1)) = .tooDeep) ∧
    (∀ fault, argument (command limit) (.ofOffset text offset) = .fail fault ↔
      text[offset]? ≠ some '\x7b' ∧ fault = ⟨⟨.unexpectedToken, .token ['\x7b']⟩, offset⟩ ∨
      text[offset]? = some '\x7b' ∧ (∀ literal, ¬HoldsLiteral text offset literal) ∧
        (∀ inner last, ¬HoldsCommand limit text offset inner last) ∧
        command limit (.ofOffset text (offset + 1)) ≠ .tooDeep ∧
        fault = ⟨⟨.unexpectedToken, .argument⟩, offset + 1⟩) := by
  have ends := argumentEnds limit text offset
  refine ⟨fun arg next => ⟨fun run => ?_, ?_⟩, fun first second firstHolds secondHolds => ?_,
    fun literal inner last holds => holds.not_holdsCommand,
    argumentLiteralFirst_eq limit text offset,
    ⟨fun run => ?_, fun ⟨opened, deep⟩ => argument_of_tooDeep opened deep⟩,
    fun fault => ⟨fun run => ?_, ?_⟩⟩
  · rw [run] at ends
    cases ends with
    | literal holds => exact .inl ⟨_, holds, rfl, rfl⟩
    | nested holds => exact .inr ⟨_, _, holds, rfl, rfl⟩
  · rintro (⟨literal, holds, rfl, rfl⟩ | ⟨inner, last, holds, rfl, rfl⟩)
    · exact argument_of_holdsLiteral holds
    · exact argument_of_holdsCommand holds
  · exact firstHolds.balances.eq_of_prefix firstHolds.closed secondHolds.balances secondHolds.closed
  · rw [run] at ends
    cases ends with
    | tooDeep opened deep => exact ⟨opened, deep⟩
  · rw [run] at ends
    cases ends with
    | notOpened notOpened => exact .inl ⟨notOpened, rfl⟩
    | neither opened noLiteral noCommand notDeep =>
        exact .inr ⟨opened, noLiteral, noCommand, notDeep, rfl⟩
  · rintro (⟨notOpened, rfl⟩ | ⟨opened, noLiteral, noCommand, notDeep, rfl⟩)
    · exact argument_of_not_opened _ notOpened
    · exact argument_of_neither opened noLiteral noCommand notDeep

/-- A literal with braces in it, and a command with spacing behind it. -/
theorem argument_reads_inner_braces_and_command :
    let text : Text := "\x7ba\x7bb\x7d\x7d\x7b\\c \x7d".toList
    HoldsLiteral text 0 ['a', '\x7b', 'b', '\x7d'] ∧
      argument (command nestingLimit) (.ofOffset text 0)
        = .ok (.literal ['a', 'b']) (.ofOffset text 6) ∧
      HoldsCommand nestingLimit text 6 ⟨['c'], [], [], none⟩ 10 ∧
      argument (command nestingLimit) (.ofOffset text 6)
        = .ok (.nested ⟨['c'], [], [], none⟩) (.ofOffset text 11) := by
  intro text
  have literal : HoldsLiteral text 0 ['a', '\x7b', 'b', '\x7d'] := by
    refine ⟨by decide, by decide, ?_⟩
    rw [Text.balances_char_iff (by decide), Text.balances_opening_iff,
      Text.balances_char_iff (by decide), Text.balances_closing_iff, Text.balances_nil_iff]
  have command : HoldsCommand nestingLimit text 6 ⟨['c'], [], [], none⟩ 10 :=
    ⟨by decide, by decide +kernel, by decide⟩
  exact ⟨literal,
    ((argument_reads_literals_and_commands nestingLimit text 0).1 _ _).2
      (.inl ⟨_, literal, rfl, rfl⟩),
    command,
    ((argument_reads_literals_and_commands nestingLimit text 6).1 _ _).2
      (.inr ⟨_, _, command, rfl, rfl⟩)⟩

end Parser

end MathGrammar
