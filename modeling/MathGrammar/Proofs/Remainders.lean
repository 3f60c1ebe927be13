import MathGrammar.Document.Verdict
import MathGrammar.Proofs.Calls.Readers
import MathGrammar.Proofs.Rounds
import MathGrammar.Proofs.Skipping

/-! # What readers leave behind them

Every reader skips the spacing behind what it reads: that on the line within a production, and line
breaks as well behind the signs between its parts, behind a production and behind a block. So the
next reader starts at no spacing, and a line break that ends a production is left for it. -/

namespace MathGrammar

variable {α β : Type} {spacing : Spacing} {cursor next : Cursor} {limit : Nat}

namespace Parser

/-- The reader skips all spacing of the kind behind what it reads. -/
def Clears (spacing : Spacing) (p : Parser α) : Prop :=
  ∀ ⦃cursor next : Cursor⦄ ⦃value : α⦄, p cursor = .ok value next →
    spacing.tokenLength next.rest = 0

variable {p : Parser α}

/-! ### Combinators -/

namespace Clears

/-- The last reader of a sequence clears what is behind the sequence. -/
theorem bind {f : α → Parser β} (last : ∀ value, (f value).Clears spacing) :
    (p >>= f).Clears spacing := by
  intro cursor next result run
  obtain ⟨value, between, -, run⟩ := bind_eq_ok.1 run
  exact last value run

/-- A value that is made from what was read takes up nothing. -/
theorem bind_pure {f : α → β} (first : p.Clears spacing) :
    (p >>= fun value => pure (f value)).Clears spacing := by
  intro cursor next result run
  obtain ⟨value, between, read, run⟩ := bind_eq_ok.1 run
  obtain ⟨-, rfl⟩ := pure_eq_ok.1 run
  exact first read

/-- Turning the value into another leaves no spacing either. -/
theorem map (f : α → β) (first : p.Clears spacing) : (p.map f).Clears spacing := by
  intro cursor next result run
  obtain ⟨value, read, -⟩ := map_eq_ok.1 run
  exact first read

/-- A verdict leaves no spacing either. -/
theorem judge (verdict : α → Except Complaint β) (first : p.Clears spacing) :
    (p.judge verdict).Clears spacing := by
  intro cursor next result run
  obtain ⟨value, read, -⟩ := judge_eq_ok.1 run
  exact first read

/-- Alternatives clear what each of them does. -/
theorem firstOf {ps : List (Parser α)} (complaint : Complaint)
    (each : ∀ p ∈ ps, p.Clears spacing) : (firstOf ps complaint).Clears spacing := by
  intro cursor next value run
  obtain ⟨p, mem, read⟩ := exists_of_firstOf_eq_ok run
  exact each p mem read

/-- Items that start at no spacing end at none. -/
theorem items (item : p.Clears spacing) {values : List α} (items : Items p cursor values next)
    (start : spacing.tokenLength cursor.rest = 0) : spacing.tokenLength next.rest = 0 := by
  induction items with
  | nil => exact start
  | cons first _ ih => exact ih (item first)

/-- The last item of a repetition clears what is behind the repetition. -/
theorem many1 (expected : Expectation) (item : p.Clears spacing) :
    (many1 p expected).Clears spacing := by
  intro cursor next values run
  obtain ⟨items, nonempty⟩ := items_of_many1 run
  cases items with
  | nil => exact absurd rfl nonempty
  | cons first others => exact item.items others (item first)

/-- A separator that no item follows is left unread, and so is what it looked past. -/
theorem separated1 {separator : Parser β} (expected : Expectation) (item : p.Clears spacing) :
    (separated1 p separator expected).Clears spacing := by
  intro cursor next values run
  obtain ⟨first, between, others, read, items, -⟩ := items_of_separated1 run
  exact (bind fun _ => item).items items (item read)

end Clears

/-! ### Signs -/

/-- Skipping goes on as long as there is a token of spacing. -/
theorem clears_skip (spacing : Spacing) : (skip spacing).Clears spacing := by
  intro cursor next value run
  obtain ⟨-, rfl⟩ := Outcome.ok.inj run
  obtain ⟨run, rest, -, -, last, skip_eq⟩ := Spacing.exists_of_skip spacing cursor
  rwa [skip_eq]

/-- A sign with spacing clears what is behind the spacing. -/
theorem clears_token (characters : Text) (spacing : Spacing) :
    (token characters spacing).Clears spacing := .bind fun _ => clears_skip spacing

/-- The sign between the two sides leaves no separators behind it. -/
theorem clears_equalSign : equalSign.Clears .separators := clears_token _ _

/-- A bar leaves no separators behind it. -/
theorem clears_bar : bar.Clears .separators := .bind fun _ => clears_token _ _

/-- A line break leaves no separators behind it. -/
theorem clears_lineBreak : lineBreak.Clears .separators := .bind fun _ => clears_token _ _

/-! ### Commands and symbols -/

/-- A command ends with inline spacing, below the limit; at the limit it reads nothing. -/
theorem clears_command (limit : Nat) : (command limit).Clears .inline := by
  cases limit with
  | zero => exact .bind fun _ => nofun
  | succ limit =>
      exact .bind fun _ => .bind fun _ => .bind fun _ => .bind fun _ => (clears_skip _).bind_pure

variable (limit)

/-- A terminal leaves no inline spacing behind its command. -/
theorem clears_terminal : (terminal limit).Clears .inline := (clears_command limit).judge _

/-- A nonterminal leaves no inline spacing behind its command. -/
theorem clears_nonterminal : (nonterminal limit).Clears .inline := (clears_command limit).judge _

/-- A vector leaves no inline spacing behind its closing bracket. -/
theorem clears_vector : (vector limit).Clears .inline :=
  .bind fun _ => .bind fun _ => .bind fun _ => (clears_token _ _).bind_pure

/-- A vector in brackets leaves no inline spacing behind its closing bracket. -/
theorem clears_bracedVector : (bracedVector limit).Clears .inline :=
  .bind fun _ => .bind fun _ => (clears_token _ _).bind_pure

/-- An arrow leaves no inline spacing behind its target. -/
theorem clears_arrow : (arrow limit).Clears .inline :=
  .bind fun _ => .bind fun _ => (clears_nonterminal limit).bind_pure

/-- A record leaves no inline spacing behind its closing brace. -/
theorem clears_record : (record limit).Clears .inline :=
  .bind fun _ => .bind fun _ => (clears_token _ _).bind_pure

/-- Every shape of a symbol leaves no inline spacing behind it. -/
theorem clears_symbol : (symbol limit).Clears .inline := by
  refine Clears.firstOf _ fun p mem => ?_
  simp only [List.mem_cons, List.not_mem_nil, or_false] at mem
  rcases mem with rfl | rfl | rfl | rfl | rfl | rfl
  · exact (clears_record limit).map _
  · exact (clears_arrow limit).map _
  · exact (clears_bracedVector limit).map _
  · exact (clears_vector limit).map _
  · exact (clears_nonterminal limit).map _
  · exact (clears_terminal limit).map _

/-! ### Productions and blocks -/

/-- The last symbol of the last case leaves no inline spacing behind it. -/
theorem clears_unionCases : (unionCases limit).Clears .inline :=
  ((clears_symbol limit).many1 _).separated1 _

/-- Neither cases nor a record leave inline spacing behind them. -/
theorem clears_rightHandSide : (rightHandSide limit).Clears .inline := by
  refine Clears.firstOf _ fun p mem => ?_
  simp only [List.mem_cons, List.not_mem_nil, or_false] at mem
  rcases mem with rfl | rfl
  · exact (clears_unionCases limit).map _
  · exact (clears_record limit).map _

/-- A production ends with its line break, which leaves no separators. -/
theorem clears_production : (production limit).Clears .separators :=
  .bind fun _ => .bind fun _ => .bind fun _ => .bind fun _ => clears_lineBreak.bind_pure

/-- The command that closes a block leaves no separators behind it. -/
theorem clears_blockEnd : (blockEnd limit).Clears .separators := .bind fun _ => clears_skip _

/-- A block that is read ends where its closing command does. -/
theorem clears_mathBlock : (mathBlock limit).Clears .separators := by
  refine .bind fun _ cursor next block run => ?_
  rw [blockBody_apply, Outcome.bind_eq_ok] at run
  obtain ⟨values, final, -, closed⟩ := run
  unfold closeBlock at closed
  by_cases none : (chain (production limit) cursor).items.isEmpty = true
  · rw [if_pos none] at closed
    exact nomatch closed
  · rw [if_neg none] at closed
    obtain ⟨_, _, ended, rfl, rfl⟩ := Outcome.bind_eq_ok.1 closed
    cases read : blockEnd limit (chain (production limit) cursor).final with
    | ok value after =>
        rw [read] at ended
        obtain ⟨-, rfl⟩ := Outcome.ok.inj ended
        exact clears_blockEnd limit read
    | fail fault => simp [read, Outcome.mapFault] at ended
    | tooDeep => simp [read, Outcome.mapFault] at ended

end Parser

/-! ### The main result -/

/-- The spacing that the reader of the construct skips behind what it reads. An argument and a mark
of repetition are followed by other parts of their command, and nothing is skipped behind them. -/
def Construct.skips? : Construct → Option Spacing
  | .command | .terminal | .nonterminal | .record | .vector | .bracedVector | .arrow | .symbol
  | .union | .rightHandSide => some .inline
  | .equalSign | .bar | .lineBreak | .production | .mathBlock => some .separators
  | .argument | .repetition => none

/-- A construct leaves none of the spacing that it is said to skip. -/
theorem Construct.parser_clears {construct : Construct} (skips : construct.skips? = some spacing) :
    (construct.parser limit).Clears spacing := by
  cases construct with
  | argument | repetition => exact nomatch skips
  | command => obtain rfl := Option.some.inj skips; exact (Parser.clears_command limit).map _
  | terminal => obtain rfl := Option.some.inj skips; exact (Parser.clears_terminal limit).map _
  | nonterminal =>
      obtain rfl := Option.some.inj skips
      exact (Parser.clears_nonterminal limit).map _
  | record => obtain rfl := Option.some.inj skips; exact (Parser.clears_record limit).map _
  | vector => obtain rfl := Option.some.inj skips; exact (Parser.clears_vector limit).map _
  | bracedVector =>
      obtain rfl := Option.some.inj skips; exact (Parser.clears_bracedVector limit).map _
  | arrow => obtain rfl := Option.some.inj skips; exact (Parser.clears_arrow limit).map _
  | symbol => obtain rfl := Option.some.inj skips; exact (Parser.clears_symbol limit).map _
  | union => obtain rfl := Option.some.inj skips; exact (Parser.clears_unionCases limit).map _
  | rightHandSide =>
      obtain rfl := Option.some.inj skips; exact (Parser.clears_rightHandSide limit).map _
  | production => obtain rfl := Option.some.inj skips; exact (Parser.clears_production limit).map _
  | mathBlock => obtain rfl := Option.some.inj skips; exact (Parser.clears_mathBlock limit).map _
  | equalSign => obtain rfl := Option.some.inj skips; exact Parser.clears_equalSign.map _
  | bar => obtain rfl := Option.some.inj skips; exact Parser.clears_bar.map _
  | lineBreak => obtain rfl := Option.some.inj skips; exact Parser.clears_lineBreak.map _

namespace Parser

/-- Where nothing is skipped on the line, a line break is read if and only if it stands there. -/
theorem lineBreak_ok_iff (none : Spacing.inline.tokenLength cursor.rest = 0) :
    (∃ next, lineBreak cursor = .ok () next) ↔ ['\\', '\\'] <+: cursor.rest := by
  have stays : cursor.skip .inline = cursor := by
    rw [Cursor.skip, Spacing.runLength_eq_zero none, Cursor.advance_zero]
  have reads : lineBreak cursor = token ['\\', '\\'] .separators cursor := by
    rw [lineBreak, bind_apply, skip, Outcome.bind_ok, stays]
  rw [reads, token, bind_apply, literal]
  by_cases breaks : ['\\', '\\'].isPrefixOf cursor.rest = true
  · rw [if_pos breaks]
    exact ⟨fun _ => List.isPrefixOf_iff_prefix.1 breaks, fun _ => ⟨_, rfl⟩⟩
  · rw [if_neg breaks]
    constructor
    · rintro ⟨next, ⟨⟩⟩
    · exact fun ahead => absurd (List.isPrefixOf_iff_prefix.2 ahead) breaks

end Parser

/-- A construct that is said to skip spacing takes up a character at least. -/
theorem Construct.parser_advances {construct : Construct}
    (skips : construct.skips? = some spacing) :
    (construct.parser limit).Advances 1 := by
  have advances := (Reader.reads construct).parser_advances limit
  cases construct with
  | argument | repetition => exact nomatch skips
  | _ => exact advances

/-- What is left of an excerpt stands behind the block in front. -/
theorem Excerpt.exists_of_verdict_eq_unparsed {excerpt : Excerpt} {offset : Nat} {rest : Text}
    (verdict : excerpt.verdict = .unparsed offset rest) :
    ∃ block, Parser.mathBlock nestingLimit (.start excerpt.content)
        = .ok block (.ofOffset excerpt.content offset) ∧
      offset < excerpt.content.length ∧ excerpt.content.drop offset = rest := by
  unfold Excerpt.verdict at verdict
  split at verdict
  · exact nomatch verdict
  · rename_i block left leftover run
    obtain ⟨rfl, rfl⟩ := Verdict.unparsed.inj verdict
    obtain ⟨next, read, rest_eq⟩ := Parser.exists_of_run_eq_ok run
    obtain ⟨place, inside⟩ := Parser.Advances.place (Parser.advances_mathBlock nestingLimit) read
    rw [place, Cursor.rest_ofOffset] at rest_eq
    have length_eq : left.length = excerpt.content.length - next.offset := by
      rw [← rest_eq, List.length_drop]
    have positive : 0 < left.length := List.length_pos_iff.2 leftover
    have offset_eq : excerpt.content.length - left.length = next.offset := by omega
    rw [offset_eq, ← place]
    exact ⟨block, read, by omega, rest_eq⟩
  · exact nomatch verdict

/-- **No reader leaves a separator behind.** Where a reader that goes on within its line ends, no
more spacing is skipped on the line, and the line break of a production is read there if and only if
it is the next thing. Where a sign, a production or a block ends, neither spacing nor line breaks
are left. So what is left of an excerpt behind its block starts with a character of neither kind. -/
theorem reader_leaves_no_separator (limit : Nat) :
    (∀ (construct : Construct) (spacing : Spacing), construct.skips? = some spacing →
      ∀ (text : Text) (offset : Nat) (reading : Reading) (next : Cursor),
        construct.parser limit (.ofOffset text offset) = .ok reading next →
        next = .ofOffset text next.offset ∧ next.offset ≤ text.length ∧
          skipAt text next.offset spacing = next.offset ∧
          (spacing = .inline →
            ((∃ after, Parser.lineBreak next = .ok () after) ↔ ['\\', '\\'] <+: next.rest))) ∧
    (∀ (excerpt : Excerpt) (offset : Nat) (rest : Text), excerpt.verdict = .unparsed offset rest →
      offset < excerpt.content.length ∧ excerpt.content.drop offset = rest ∧
        ∀ token after : Text, Spacing.Token .separators token after → rest ≠ token ++ after) := by
  refine ⟨fun construct spacing skips text offset reading next run => ?_,
    fun excerpt offset rest verdict => ?_⟩
  · obtain ⟨place, inside⟩ := (Construct.parser_advances skips).place run
    have none := Construct.parser_clears skips run
    refine ⟨place, inside, ?_, ?_⟩
    · rw [place, Cursor.rest_ofOffset] at none
      exact (skipAt_eq_self_iff inside).2 none
    · rintro rfl
      exact Parser.lineBreak_ok_iff none
  · obtain ⟨block, read, before, rest_eq⟩ := Excerpt.exists_of_verdict_eq_unparsed verdict
    refine ⟨before, rest_eq, fun token after shape split => ?_⟩
    have none := Parser.clears_mathBlock nestingLimit read
    rw [Cursor.rest_ofOffset, rest_eq, split, shape.tokenLength_append] at none
    exact absurd none shape.length_pos.ne'

/-- Cases in front of a spacing word and a line break, and a block with a bar behind the separators
at its end. -/
theorem nothing_left_behind_cases_and_block :
    let text : Text := "\\a~| \\A\\quad\\\\ &".toList
    let content : Text :=
      "\\begin\\production\x7bP\x7d\\x::=\\A\\\\\\end~\\\\ |".toList
    (∃ reading, Construct.union.parser nestingLimit (.ofOffset text 0)
      = .ok reading (.ofOffset text 12)) ∧ skipAt text (12 : Nat) .inline = 12 ∧
    (∃ after, Parser.lineBreak (.ofOffset text 12) = .ok () after) ∧
    (Excerpt.ofLines 1 content []).verdict = .unparsed 37 ['|'] ∧ content.drop 37 = ['|'] := by
  intro text content
  obtain ⟨each, left⟩ := reader_leaves_no_separator nestingLimit
  have run : ∃ reading, Construct.union.parser nestingLimit (.ofOffset text 0)
      = .ok reading (.ofOffset text 12) :=
    ⟨.node (RightHandSide.union [[.nonterminal ⟨['a'], none⟩], [.terminal ⟨['A'], none⟩]]).toNode,
      by decide +kernel⟩
  have verdict : (Excerpt.ofLines 1 content []).verdict = .unparsed 37 ['|'] := by decide +kernel
  obtain ⟨reading, read⟩ := run
  obtain ⟨-, -, stays, visible⟩ := each .union .inline rfl text 0 reading _ read
  exact ⟨⟨reading, read⟩, stays, (visible rfl).2 (by decide), verdict, (left _ _ _ verdict).2.1⟩

end MathGrammar
