import MathGrammar.Proofs.Consumption
import MathGrammar.Proofs.Locality

/-! # Progress

A run stays inside its text: it goes on over characters that are there, or it fails between the
place where it started and the end of the text. Apart from spacing and the mark of repetition every
construct takes up something, so that a repetition of constructs comes to an end without watching
for items that take up nothing. -/

namespace MathGrammar

variable {α β : Type} {cursor next : Cursor} {least more limit : Nat}

/-- Advancing twice is advancing by the sum. -/
theorem Cursor.advance_advance (count more : Nat) (cursor : Cursor) :
    (cursor.advance count).advance more = cursor.advance (count + more) := by
  simp only [Cursor.advance, List.drop_drop, Nat.add_assoc]

/-- Advancing in a text is a matter of the offset alone. -/
theorem Cursor.advance_ofOffset (text : Text) (offset count : Nat) :
    (ofOffset text offset).advance count = ofOffset text (offset + count) := by
  simp only [Cursor.advance, ofOffset, List.drop_drop]

/-- The fault lies neither before the place nor behind the end of its text. -/
def Fault.Ahead (cursor : Cursor) (fault : Fault) : Prop :=
  cursor.offset ≤ fault.offset ∧ fault.offset ≤ cursor.offset + cursor.rest.length

/-- A complaint is placed where it is made. -/
theorem Fault.ahead_located (complaint : Complaint) (cursor : Cursor) :
    (complaint.located cursor.offset).Ahead cursor :=
  ⟨Nat.le_refl _, Nat.le_add_right _ _⟩

/-- What is ahead of a later place is ahead of an earlier one. -/
theorem Fault.Ahead.of_advance {count : Nat} {fault : Fault} (there : count ≤ cursor.rest.length)
    (ahead : fault.Ahead (cursor.advance count)) : fault.Ahead cursor := by
  obtain ⟨notBefore, notBehind⟩ := ahead
  rw [Cursor.offset_advance] at notBefore notBehind
  rw [Cursor.rest_advance, List.length_drop] at notBehind
  exact ⟨by omega, by omega⟩

/-- The outcome of a run that started at `cursor`: a place at least `least` characters further on in
the text, or a fault ahead of the start. -/
inductive Outcome.Bounded (cursor : Cursor) (least : Nat) : Outcome α → Prop where
  /-- The characters between the two places are there. -/
  | ok (value : α) {count : Nat} (enough : least ≤ count) (there : count ≤ cursor.rest.length) :
    Bounded cursor least (.ok value (cursor.advance count))
  /-- The fault is ahead. -/
  | fail {fault : Fault} (ahead : fault.Ahead cursor) : Bounded cursor least (.fail fault)
  /-- A run that gives up is at no place. -/
  | tooDeep : Bounded cursor least .tooDeep

namespace Outcome.Bounded

variable {outcome : Outcome α}

/-- What is bounded from a place that the run came through is bounded from its start. -/
theorem of_advance {count : Nat} (there : count ≤ cursor.rest.length)
    (bounded : outcome.Bounded (cursor.advance count) more) (enough : least ≤ count + more) :
    outcome.Bounded cursor least := by
  cases bounded with
  | @ok value length atLeast inside =>
      rw [Cursor.rest_advance, List.length_drop] at inside
      rw [Cursor.advance_advance]
      exact .ok value (by omega) (by omega)
  | fail ahead => exact .fail (ahead.of_advance there)
  | tooDeep => exact .tooDeep

/-- An outcome that takes up so much takes up less than that too. -/
theorem mono (bounded : outcome.Bounded cursor more) (le : least ≤ more) :
    outcome.Bounded cursor least := by
  cases bounded with
  | ok value enough there => exact .ok value (Nat.le_trans le enough) there
  | fail ahead => exact .fail ahead
  | tooDeep => exact .tooDeep

/-- What is taken up before and behind a value adds up, and a fault behind it lies further on. -/
theorem bind {go : α → Cursor → Outcome β} (bounded : outcome.Bounded cursor least)
    (then_ : ∀ value count, count ≤ cursor.rest.length →
      (go value (cursor.advance count)).Bounded (cursor.advance count) more) :
    (outcome.bind go).Bounded cursor (least + more) := by
  cases bounded with
  | ok value enough there => exact (then_ value _ there).of_advance there (by omega)
  | fail ahead => exact .fail ahead
  | tooDeep => exact .tooDeep

end Outcome.Bounded

namespace Parser

/-- From everywhere the parser takes up at least `least` characters of the text, or fails inside of
what is left of it. -/
def Advances (least : Nat) (p : Parser α) : Prop := ∀ cursor, (p cursor).Bounded cursor least

variable {p q : Parser α}

/-! ### Places in a text -/

/-- A reader that takes up something of a text ends in it, wherever it starts. -/
theorem Advances.place (advances : p.Advances 1) {text : Text} {offset : Nat} {value : α}
    (run : p (.ofOffset text offset) = .ok value next) :
    next = .ofOffset text next.offset ∧ next.offset ≤ text.length := by
  have bounded := advances (.ofOffset text offset)
  rw [run] at bounded
  cases bounded with
  | @ok _ count enough there =>
      rw [Cursor.rest_ofOffset, List.length_drop] at there
      refine ⟨Cursor.advance_ofOffset text offset count, ?_⟩
      rw [Cursor.offset_advance, Cursor.offset_ofOffset]
      omega

/-! ### Combinators -/

namespace Advances

/-- A value without any reading takes up nothing. -/
theorem pure (value : α) : (pure value : Parser α).Advances 0 := by
  intro cursor
  have bounded : Outcome.Bounded cursor 0 (.ok value (cursor.advance 0)) :=
    .ok value (Nat.le_refl 0) (Nat.zero_le _)
  rwa [Cursor.advance_zero] at bounded

/-- A sequence takes up what its readers take up together. -/
theorem bind {f : α → Parser β} (first : p.Advances least)
    (next : ∀ value, (f value).Advances more) : (p >>= f).Advances (least + more) :=
  fun cursor => (first cursor).bind fun value _ _ => next value _

/-- A complaint is placed where the run started. -/
theorem complain (complaint : Complaint) :
    (complain complaint : Parser α).Advances least :=
  fun _ => .fail (Fault.ahead_located _ _)

/-- Turning the value into another does not change what is taken up. -/
theorem map (f : α → β) (first : p.Advances least) : (p.map f).Advances least := by
  intro cursor
  have bounded := first cursor
  unfold Parser.map
  generalize p cursor = outcome at bounded ⊢
  cases bounded with
  | ok value enough there => exact .ok (f value) enough there
  | fail ahead => exact .fail ahead
  | tooDeep => exact .tooDeep

/-- A value that is rejected is complained about where it began. -/
theorem judge (verdict : α → Except Complaint β) (first : p.Advances least) :
    (p.judge verdict).Advances least := by
  intro cursor
  have bounded := first cursor
  unfold Parser.judge
  generalize p cursor = outcome at bounded ⊢
  cases bounded with
  | ok value enough there =>
      rw [Outcome.bind_ok]
      cases verdict value with
      | ok result => exact .ok result enough there
      | error complaint => exact .fail (Fault.ahead_located _ _)
  | fail ahead => exact .fail ahead
  | tooDeep => exact .tooDeep

/-- The second alternative starts where the first one did. -/
theorem orElse (first : p.Advances least) (second : q.Advances least) :
    (p.orElse q).Advances least := by
  intro cursor
  have bounded := first cursor
  unfold Parser.orElse
  generalize p cursor = outcome at bounded ⊢
  cases bounded with
  | ok value enough there => exact .ok value enough there
  | @fail fault ahead =>
      by_cases recoverable : fault.recoverable = true
      · simp only [if_pos recoverable]
        exact second cursor
      · simp only [if_neg recoverable]
        exact .fail ahead
  | tooDeep => exact .tooDeep

/-- Alternatives take up what each of them does at least, and complain where they started. -/
theorem firstOf {ps : List (Parser α)} (complaint : Complaint)
    (each : ∀ p ∈ ps, p.Advances least) : (firstOf ps complaint).Advances least := by
  induction ps with
  | nil => exact complain complaint
  | cons p ps ih =>
      have others : (Parser.firstOf ps complaint).Advances least :=
        ih fun q mem => each q (List.mem_cons_of_mem p mem)
      exact (each p List.mem_cons_self).orElse others

/-! ### Repetitions -/

/-- A chain ends in the text, and what stops it there is bounded as well. -/
theorem chain (item : p.Advances 0) (cursor : Cursor) :
    ∃ count ≤ cursor.rest.length, (chain p cursor).final = cursor.advance count ∧
      ∀ fault, (Parser.chain p cursor).stop = .fault fault →
        fault.Ahead (cursor.advance count) := by
  -- Along the chain; only its last step may fail, where the item is tried once more.
  induction cursor using Parser.chain.induct p with
  | case1 cursor value next read shorter ih =>
      have bounded := item cursor
      rw [read] at bounded
      obtain ⟨rest, inside, final_eq, stopped⟩ := ih
      rw [Parser.chain, read]
      simp only [if_pos shorter]
      cases bounded with
      | @ok _ count _ there =>
          rw [Cursor.rest_advance, List.length_drop] at inside
          refine ⟨count + rest, by omega, ?_, ?_⟩
          · rw [← Cursor.advance_advance]
            exact final_eq
          · rw [← Cursor.advance_advance]
            exact stopped
  | case2 cursor value next read longer =>
      have bounded := item cursor
      rw [read] at bounded
      rw [Parser.chain, read]
      simp only [if_neg longer]
      cases bounded with
      | @ok _ count _ there =>
          refine ⟨count, there, rfl, ?_⟩
          rintro _ ⟨⟩
  | case3 cursor fault failed =>
      have bounded := item cursor
      rw [failed] at bounded
      rw [Parser.chain, failed]
      refine ⟨0, Nat.zero_le _, rfl, ?_⟩
      rintro _ ⟨⟩
      cases bounded with
      | fail ahead => exact ahead
  | case4 cursor deep =>
      rw [Parser.chain, deep]
      refine ⟨0, Nat.zero_le _, rfl, ?_⟩
      rintro _ ⟨⟩

/-- A repetition takes up nothing at least, as there may be no item. -/
theorem many (item : p.Advances 0) : (many p).Advances 0 := by
  intro cursor
  obtain ⟨count, there, final_eq, stopped⟩ := item.chain cursor
  unfold Parser.many Chain.toOutcome
  rw [final_eq]
  cases stop_eq : (Parser.chain p cursor).stop with
  | fault fault =>
      by_cases recoverable : fault.recoverable = true
      · simp only [if_pos recoverable]
        exact .ok _ (Nat.zero_le _) there
      · simp only [if_neg recoverable]
        exact .fail ((stopped fault stop_eq).of_advance there)
  | tooDeep => exact .tooDeep
  | stalled => exact .ok _ (Nat.zero_le _) there

/-- What takes up more also takes up less. -/
theorem mono (advances : p.Advances more) (le : least ≤ more) : p.Advances least :=
  fun cursor => (advances cursor).mono le

/-- What a repetition that needs an item takes up is at least its first item. -/
theorem many1 (expected : Expectation) (item : p.Advances least) :
    (many1 p expected).Advances least :=
  (item.orElse (complain _)).bind fun _ => (item.mono (Nat.zero_le _)).many.bind fun _ => .pure _

/-- Items behind separators never lead back. -/
theorem behindSeparators {separator : Parser β} (pair : (separator >>= fun _ => p).Advances 0) :
    Parser.Advances 0 (behindSeparators p separator) := by
  intro cursor
  -- Along the pairs; only their end may fail, where one more is tried.
  induction cursor using Parser.behindSeparators.induct p separator with
  | case1 cursor value next read shorter ih =>
      have bounded := pair cursor
      rw [read] at bounded
      rw [behindSeparators_of_ok read shorter]
      cases bounded with
      | @ok _ count _ there =>
          have joined := ih.bind fun values length _ => pure (value :: values) _
          exact joined.of_advance there (Nat.zero_le _)
  | case2 cursor value next read longer =>
      rw [Parser.behindSeparators, read]
      simp only [if_neg longer]
      exact pure [] cursor
  | case3 cursor fault failed recoverable =>
      rw [behindSeparators_of_fail failed recoverable]
      exact pure [] cursor
  | case4 cursor fault failed final =>
      have bounded := pair cursor
      rw [failed] at bounded
      rw [Parser.behindSeparators, failed]
      simp only [if_neg final]
      cases bounded with
      | fail ahead => exact .fail ahead
  | case5 cursor deep =>
      rw [Parser.behindSeparators, deep]
      exact .tooDeep

/-- What a repetition with separators takes up is at least its first item. -/
theorem separated1 {separator : Parser β} (expected : Expectation) (item : p.Advances least)
    (separates : separator.Advances more) : (separated1 p separator expected).Advances least :=
  (item.orElse (complain _)).bind fun _ =>
    ((separates.bind fun _ => item).mono (Nat.zero_le _)).behindSeparators.bind fun _ => .pure _

/-- Reading never goes back in the text. -/
theorem length_le (advances : p.Advances least) {value : α} (run : p cursor = .ok value next) :
    next.rest.length ≤ cursor.rest.length := by
  have bounded := advances cursor
  rw [run] at bounded
  cases bounded with
  | ok value enough there =>
      rw [Cursor.rest_advance, List.length_drop]
      exact Nat.sub_le _ _

end Advances

/-- Items one after another leave no more of the text than there was. -/
theorem Items.length_le (advances : p.Advances least) {values : List α}
    (items : Items p cursor values next) : next.rest.length ≤ cursor.rest.length := by
  induction items with
  | nil => exact Nat.le_refl _
  | cons first _ ih => exact Nat.le_trans ih (advances.length_le first)

/-! ### Elementary readers -/

/-- A scanner advances by what it finds in the text. -/
theorem advances_scan {look : Text → Except Complaint (α × Nat)} {spacing : Spacing}
    (takes : TakesUnits spacing look)
    (enough : ∀ text value length, look text = .ok (value, length) → least ≤ length) :
    (scan look).Advances least := by
  intro cursor
  unfold scan
  cases found : look cursor.rest with
  | ok result =>
      obtain ⟨value, length⟩ := result
      obtain ⟨taken, rest, rest_eq, length_eq, -⟩ := takes found
      refine .ok value (enough _ _ _ found) ?_
      rw [rest_eq, List.length_append]
      omega
  | error complaint => exact .fail (Fault.ahead_located _ _)

/-- A scanner may find something that takes up no characters. -/
theorem advances_scan_zero {look : Text → Except Complaint (α × Nat)} {spacing : Spacing}
    (takes : TakesUnits spacing look) : (scan look).Advances 0 :=
  advances_scan takes fun _ _ _ _ => Nat.zero_le _

/-- The name of a command takes up its backslash. -/
theorem advances_commandName : commandName.Advances 1 := by
  have takes : TakesUnits .inline nameAhead := takesUnits_nameAhead
  rw [commandName_eq_scan]
  refine advances_scan takes fun text name length found => ?_
  unfold nameAhead at found
  split at found
  · dsimp only at found
    split at found
    · simp at found
    · obtain ⟨-, rfl⟩ := Prod.mk.inj (Except.ok.inj found)
      exact Nat.le_add_left 1 _
  · simp at found

/-- There may be no parameters. -/
theorem advances_params : params.Advances 0 := by
  have takes : TakesUnits .inline paramsAhead := takesUnits_paramsAhead
  rw [params_eq_scan]
  exact advances_scan_zero takes

/-- There may be no mark of repetition. -/
theorem advances_repetition : repetition.Advances 0 := by
  have takes : TakesUnits .inline repetitionAhead := takesUnits_repetitionAhead
  rw [repetition_eq_scan]
  exact advances_scan_zero takes

/-- The rest of a literal argument stays inside of the text. -/
theorem advances_literalArgument : literalArgument.Advances 0 := by
  have takes : TakesUnits .inline literalArgumentAhead := takesUnits_literalArgumentAhead
  rw [literalArgument_eq_scan]
  exact advances_scan_zero takes

/-- There may be no spacing, and there is none beyond the end. -/
theorem advances_skip (spacing : Spacing) : (skip spacing).Advances 0 := by
  rw [skip_eq_scan]
  exact advances_scan_zero takesUnits_skip

/-- The given characters are taken up as a whole. -/
theorem advances_literal (characters : Text) : (literal characters).Advances characters.length := by
  intro cursor
  unfold literal
  by_cases isPrefix : characters.isPrefixOf cursor.rest = true
  · rw [if_pos isPrefix]
    exact .ok () (Nat.le_refl _) (List.isPrefixOf_iff_prefix.1 isPrefix).length_le
  · rw [if_neg isPrefix]
    exact .fail (Fault.ahead_located _ _)

/-- A sign takes up its own characters. -/
theorem advances_token (characters : Text) (spacing : Spacing) :
    (token characters spacing).Advances characters.length :=
  (advances_literal characters).bind fun _ => advances_skip spacing

/-! ### Commands -/

/-- An argument takes up the brace that opens it. -/
theorem advances_argument {inner : Parser Command} (advances : inner.Advances least) :
    (argument inner).Advances 1 := by
  have inside : ∀ p ∈ [nestedArgument inner, literalArgument], p.Advances 0 := by
    intro p mem
    simp only [List.mem_cons, List.not_mem_nil, or_false] at mem
    rcases mem with rfl | rfl
    · have nested : (nestedArgument inner).Advances (least + 1) :=
        advances.bind fun _ => (advances_literal ['\x7d']).bind fun _ => .pure _
      exact nested.mono (Nat.zero_le _)
    · exact advances_literalArgument
  exact (advances_literal ['\x7b']).bind fun _ => .firstOf _ inside

/-- A command takes up the backslash of its name. -/
theorem advances_command (limit : Nat) : (command limit).Advances 1 := by
  -- On the limit: the commands inside the arguments are read under the limit before it.
  induction limit with
  | zero =>
      have givesUp : (giveUp : Parser Command).Advances 0 := fun _ => .tooDeep
      exact advances_commandName.bind fun _ => givesUp
  | succ limit ih =>
      have args : (many (argument (command limit))).Advances 0 :=
        ((advances_argument ih).mono (Nat.zero_le _)).many
      exact advances_commandName.bind fun _ => advances_params.bind fun _ => args.bind fun _ =>
        advances_repetition.bind fun _ => (advances_skip _).bind fun _ => .pure _

variable (limit : Nat)

/-- A command of a given name takes up its backslash. -/
theorem advances_commandNamed (kind : FaultKind) (name : Text) :
    (commandNamed limit kind name).Advances 1 := (advances_command limit).judge _

/-! ### Symbols -/

/-- A terminal takes up the backslash of its command. -/
theorem advances_terminal : (terminal limit).Advances 1 := (advances_command limit).judge _

/-- A nonterminal takes up the backslash of its command. -/
theorem advances_nonterminal : (nonterminal limit).Advances 1 := (advances_command limit).judge _

/-- A vector takes up two commands and two brackets. -/
theorem advances_vector : (vector limit).Advances 4 :=
  (advances_commandNamed limit _ _).bind fun _ => (advances_token ['('] _).bind fun _ =>
    (advances_nonterminal limit).bind fun _ => (advances_token [')'] _).bind fun _ => .pure _

/-- A vector in brackets takes up the vector and the two brackets around it. -/
theorem advances_bracedVector : (bracedVector limit).Advances 6 :=
  (advances_token ['['] _).bind fun _ => (advances_vector limit).bind fun _ =>
    (advances_token [']'] _).bind fun _ => .pure _

/-- An arrow takes up three commands. -/
theorem advances_arrow : (arrow limit).Advances 3 :=
  (advances_nonterminal limit).bind fun _ => (advances_commandNamed limit _ _).bind fun _ =>
    (advances_nonterminal limit).bind fun _ => .pure _

/-- The value of a field takes up the command that it starts with. -/
theorem advances_fieldValue : (fieldValue limit).Advances 1 := by
  refine Advances.firstOf _ fun p mem => ?_
  simp only [List.mem_cons, List.not_mem_nil, or_false] at mem
  rcases mem with rfl | rfl
  · exact ((advances_vector limit).mono (by decide)).map _
  · exact (advances_nonterminal limit).map _

/-- A field takes up its key and its value. -/
theorem advances_recordField : (recordField limit).Advances 2 :=
  (advances_skip _).bind fun _ => (advances_terminal limit).bind fun _ =>
    (advances_fieldValue limit).bind fun _ => (advances_skip _).bind fun _ => .pure _

/-- A record takes up a field and the two braces around it, with their backslashes. -/
theorem advances_record : (record limit).Advances 6 :=
  (advances_token ['\\', '\x7b'] _).bind fun _ =>
    ((advances_recordField limit).separated1 _ (advances_literal [','])).bind fun _ =>
      (advances_token ['\\', '\x7d'] _).bind fun _ => .pure _

/-- A symbol takes up the backslash that it starts with. -/
theorem advances_symbol : (symbol limit).Advances 1 := by
  refine Advances.firstOf _ fun p mem => ?_
  simp only [List.mem_cons, List.not_mem_nil, or_false] at mem
  rcases mem with rfl | rfl | rfl | rfl | rfl | rfl
  · exact ((advances_record limit).mono (by decide)).map _
  · exact ((advances_arrow limit).mono (by decide)).map _
  · exact ((advances_bracedVector limit).mono (by decide)).map _
  · exact ((advances_vector limit).mono (by decide)).map _
  · exact (advances_nonterminal limit).map _
  · exact (advances_terminal limit).map _

/-! ### Productions -/

/-- The sign between the two sides takes up its three characters. -/
theorem advances_equalSign : equalSign.Advances 3 := advances_token [':', ':', '='] _

/-- A bar takes up its character, besides the spacing around it. -/
theorem advances_bar : bar.Advances 1 :=
  (advances_skip _).bind fun _ => advances_token ['|'] _

/-- A line break takes up its two backslashes. -/
theorem advances_lineBreak : lineBreak.Advances 2 :=
  (advances_skip _).bind fun _ => advances_token ['\\', '\\'] _

/-- A case takes up its first symbol. -/
theorem advances_unionCase : (unionCase limit).Advances 1 := (advances_symbol limit).many1 _

/-- Cases take up the first one. -/
theorem advances_unionCases : (unionCases limit).Advances 1 :=
  (advances_unionCase limit).separated1 _ advances_bar

/-- A right-hand side takes up the first symbol of a case, or a record. -/
theorem advances_rightHandSide : (rightHandSide limit).Advances 1 := by
  refine Advances.firstOf _ fun p mem => ?_
  simp only [List.mem_cons, List.not_mem_nil, or_false] at mem
  rcases mem with rfl | rfl
  · exact (advances_unionCases limit).map _
  · exact ((advances_record limit).mono (by decide)).map _

/-- A symbol on the left-hand side takes up the backslash of its command. -/
theorem advances_definedSymbol : (definedSymbol limit).Advances 1 := (advances_command limit).map _

/-- The head of a production takes up the backslash of its command. -/
theorem advances_productionHead : (productionHead limit).Advances 1 :=
  (advances_commandNamed limit _ _).judge _

/-- What follows the head of a production with the label. -/
def productionTail (label : Text) : Parser Production := do
  let lhs ← many (definedSymbol limit)
  equalSign.orElse (complain ⟨.unexpectedToken, .equalSignOrSymbol⟩)
  let rhs ← rightHandSide limit
  lineBreak
  return ⟨label, lhs, rhs⟩

/-- A production is its head and what follows the head. -/
theorem production_eq_bind : production limit = productionHead limit >>= productionTail limit := rfl

/-- Behind its head a production takes up the sign, a symbol and the line break. -/
theorem advances_productionTail (label : Text) : (productionTail limit label).Advances 6 :=
  ((advances_definedSymbol limit).mono (Nat.zero_le _)).many.bind fun _ =>
    (advances_equalSign.orElse (.complain _)).bind fun _ =>
      (advances_rightHandSide limit).bind fun _ => advances_lineBreak.bind fun _ => .pure _

/-- A production takes up its head and what must follow it. -/
theorem advances_production : (production limit).Advances 7 :=
  (advances_productionHead limit).bind (advances_productionTail limit)

/-! ### Blocks -/

/-- The command that opens a block takes up its backslash. -/
theorem advances_blockHead : (blockHead limit).Advances 1 :=
  (advances_skip _).bind fun _ => (advances_commandNamed limit _ _).bind fun _ => .pure _

/-- The command that closes a block takes up its backslash. -/
theorem advances_blockEnd : (blockEnd limit).Advances 1 :=
  (advances_commandNamed limit _ _).bind fun _ => advances_skip _

/-- Whichever of the two faults is put in front, it is ahead when both are. -/
theorem ahead_deeperFault {chain : Chain Production} {fallback : Fault}
    (stopped : ∀ fault, chain.stop = .fault fault → fault.Ahead cursor)
    (ahead : fallback.Ahead cursor) : (chain.deeperFault fallback).Ahead cursor := by
  rcases chain.deeperFault_eq_or fallback with same | ⟨fault, stop_eq, deeper⟩
  · rwa [same]
  · rw [deeper]
    exact stopped fault stop_eq

/-- The end of the block is looked for where the chain ends. -/
theorem bounded_closeBlock {productions : Chain Production}
    (stopped : ∀ fault, productions.stop = .fault fault → fault.Ahead productions.final) :
    (closeBlock limit productions).Bounded productions.final 0 := by
  unfold closeBlock
  by_cases none : productions.items.isEmpty = true
  · rw [if_pos none]
    exact .fail (ahead_deeperFault stopped (Fault.ahead_located _ _))
  · rw [if_neg none]
    have bounded := advances_blockEnd limit productions.final
    generalize blockEnd limit productions.final = outcome at bounded ⊢
    cases bounded with
    | ok value enough there => exact .ok _ (Nat.zero_le _) there
    | fail ahead => exact .fail (ahead_deeperFault stopped ahead)
    | tooDeep => exact .tooDeep

/-- What follows the opening command stays inside of the text, and so does its fault. -/
theorem advances_blockBody : (blockBody limit).Advances 0 := by
  intro cursor
  have item : (production limit).Advances 0 := (advances_production limit).mono (Nat.zero_le _)
  obtain ⟨count, there, final_eq, stopped⟩ := item.chain cursor
  have closed : (closeBlock limit (chain (production limit) cursor)).Bounded cursor 0 := by
    rw [← final_eq] at stopped
    have bounded := bounded_closeBlock limit stopped
    rw [final_eq] at bounded
    exact bounded.of_advance there (Nat.zero_le _)
  have bounded := item.many cursor
  unfold many at bounded
  simp only [blockBody]
  generalize (chain (production limit) cursor).toOutcome = outcome at bounded ⊢
  cases bounded with
  | ok values => exact closed
  | fail ahead => exact .fail ahead
  | tooDeep => exact .tooDeep

/-- A block takes up the backslash of its opening command. -/
theorem advances_mathBlock : (mathBlock limit).Advances 1 :=
  (advances_blockHead limit).bind fun _ => advances_blockBody limit

end Parser

end MathGrammar
