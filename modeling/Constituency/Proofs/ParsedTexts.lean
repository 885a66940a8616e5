import Mathlib.Logic.Basic
import Constituency.Parse
import Constituency.Proofs.Recursion
import Constituency.Proofs.TokenRuns

namespace Constituency

section Texts

variable {rule : Rule} {options : Options} {text : String}

theorem Tape.ofText_eq (present : Token.ofText text ≠ []) :
    Tape.ofText text = .ok ⟨Token.ofText text, 0, present, Nat.zero_le _⟩ := by
  rw [Tape.ofText, Tape.ofTokens, dif_neg present]

theorem parseWith_of_blank (blank : Token.ofText text = []) :
    parseWith text rule options = .error .empty := by
  rw [parseWith, Tape.ofText, Tape.ofTokens, dif_pos blank]
  rfl

theorem parseWith_of_present (present : Token.ofText text ≠ []) :
    ∃ tape : Tape, tape.tokens = Token.ofText text ∧ tape.position = 0 ∧
      parseWith text rule options = .ok (parseTape text rule options tape) := by
  refine ⟨⟨Token.ofText text, 0, present, Nat.zero_le _⟩, rfl, rfl, ?_⟩
  rw [parseWith, Tape.ofText_eq present]
  rfl

theorem parseTape_of_done (text : String) {tape : Tape} {outcome : Outcome} {events : List Event}
    (done : rule.recognize options.config tape = .done outcome events) :
    ∃ later, parseTape text rule options tape = .done ⟨text, rule, tape, outcome⟩ later := by
  refine ⟨events ++ [.parsed rule outcome.succeeded outcome.tape.position], ?_⟩
  rw [parseTape, done]
  rfl

theorem parseTape_ends (suits : options.config.suits rule = true) (text : String) (tape : Tape) :
    (parseTape text rule options tape).Ends fun parse => parse.outcome.Kept tape := by
  obtain ⟨outcome, events, done, kept⟩ := Rule.recognize_keeps suits tape
  obtain ⟨later, parsed⟩ := parseTape_of_done text done
  exact ⟨_, later, parsed, kept⟩

theorem parseWith_ends (suits : options.config.suits rule = true)
    (present : Token.ofText text ≠ []) :
    ∃ tape outcome events later, Tape.ofText text = .ok tape ∧
      tape.tokens = Token.ofText text ∧ tape.position = 0 ∧
      rule.recognize options.config tape = .done outcome events ∧ outcome.Kept tape ∧
      parseWith text rule options = .ok (.done ⟨text, rule, tape, outcome⟩ later) := by
  have begins := Tape.ofText_eq present
  obtain ⟨outcome, events, done, kept⟩ := Rule.recognize_keeps suits
    ⟨Token.ofText text, 0, present, Nat.zero_le _⟩
  obtain ⟨later, parsed⟩ := parseTape_of_done text done
  refine ⟨_, outcome, events, later, begins, rfl, rfl, done, kept, ?_⟩
  rw [parseWith, begins, ← parsed]
  rfl

end Texts

namespace Parse

structure Matched (parse : Parse) : Prop where
  success : parse.success = true
  consumed : 1 ≤ parse.consumed
  tree : parse.tree?.isSome = true
  reason : parse.reason? = none

structure Missed (parse : Parse) : Prop where
  success : parse.success = false
  consumed : parse.consumed = 0
  remaining : parse.remaining = parse.tokens
  tree : parse.tree? = none
  reason : parse.reason?.isSome = true

theorem Matched.not_missed {parse : Parse} (matched : parse.Matched) : ¬ parse.Missed := by
  intro missed
  cases matched.success.symm.trans missed.success

section Accounts

variable {parse : Parse} (kept : parse.outcome.Kept parse.start)

include kept

theorem take_append_remaining :
    parse.tokens.take parse.consumed ++ parse.remaining = parse.tokens := by
  have tokens : parse.outcome.tape.tokens = parse.tokens := kept.tokens
  rw [← tokens]
  exact parse.outcome.tape.consumed_append_remaining

theorem consumed_le : parse.consumed ≤ parse.tokens.length := by
  have tokens : parse.outcome.tape.tokens = parse.tokens := kept.tokens
  rw [← tokens]
  exact parse.outcome.tape.position_le

theorem complete_iff :
    parse.complete = true ↔ parse.success = true ∧ parse.consumed = parse.tokens.length := by
  have whole := congrArg List.length (take_append_remaining kept)
  have bound := consumed_le kept
  rw [List.length_append, List.length_take, Nat.min_eq_left bound] at whole
  rw [complete, Bool.and_eq_true, List.isEmpty_iff_length_eq_zero]
  constructor
  · rintro ⟨success, none⟩
    exact ⟨success, by omega⟩
  · rintro ⟨success, all⟩
    exact ⟨success, by omega⟩

theorem matched_or_missed (starts : parse.start.position = 0) : parse.Matched ∨ parse.Missed := by
  obtain ⟨text, rule, start, outcome⟩ := parse
  cases outcome with
  | matched rest tree =>
      have moved : start.position < rest.position := Tape.Ahead.position kept
      exact .inl ⟨rfl, Nat.lt_of_le_of_lt (Nat.zero_le _) moved, rfl, rfl⟩
  | missed reason left =>
      have same : left = start := kept
      subst same
      have atStart : left.position = 0 := starts
      refine .inr ⟨rfl, atStart, ?_, rfl, rfl⟩
      simp only [remaining, Outcome.tape, Tape.remaining, atStart, List.drop_zero, tokens]

end Accounts

/-- A text is refused if and only if it is all white space. Otherwise the parse is done and adds up,
it is a match or a miss and not both, and it is complete just when a match read every token. -/
theorem parseWith_accounts (text : String) (rule : Rule) (options : Options)
    (suits : options.config.suits rule = true) :
    (parseWith text rule options = .error .empty ↔ ∀ c ∈ text.toList, Text.isBlank c = true) ∧
    ((∃ c ∈ text.toList, Text.isBlank c = false) →
      ∃ parse events, parseWith text rule options = .ok (.done parse events) ∧
        parse.tokens = Token.ofText text ∧ parse.consumed ≤ parse.tokens.length ∧
        parse.tokens = parse.tokens.take parse.consumed ++ parse.remaining ∧
        Xor parse.Matched parse.Missed ∧
        (parse.complete = true ↔
          parse.success = true ∧ parse.consumed = parse.tokens.length)) := by
  rw [← Token.ofText_eq_nil_iff]
  constructor
  · constructor
    · intro refused
      by_contra present
      obtain ⟨_, _, _, _, _, _, _, _, _, parsed⟩ := parseWith_ends suits present
      cases parsed.symm.trans refused
    · exact parseWith_of_blank
  · intro visible
    have present := (Token.ofText_ne_nil_iff text).mpr visible
    obtain ⟨tape, outcome, _, later, _, tokens, starts, _, kept, parsed⟩ :=
      parseWith_ends suits present
    have either : Matched ⟨text, rule, tape, outcome⟩ ∨ Missed ⟨text, rule, tape, outcome⟩ :=
      matched_or_missed kept starts
    refine ⟨⟨text, rule, tape, outcome⟩, later, parsed, tokens, consumed_le kept,
      (take_append_remaining kept).symm, ?_, complete_iff kept⟩
    rcases either with matched | missed
    · exact .inl ⟨matched, matched.not_missed⟩
    · exact .inr ⟨missed, fun matched => matched.not_missed missed⟩

theorem parseWith_accounts_remaining :
    let options : Options := ⟨.none, none, some .adjective⟩
    options.config.suits .compoundAnd = true ∧
    parseWith "\t " .compoundAnd options = .error .empty ∧
    (∃ c ∈ "Red and blue, too".toList, Text.isBlank c = false) ∧
    ∃ parse events,
      parseWith "Red and blue, too" .compoundAnd options = .ok (.done parse events) ∧
        parse.tokens = ["Red", "and", "blue", ",", "too"] ∧ parse.consumed ≤ 5 ∧
        Xor parse.Matched parse.Missed ∧
        (parse.complete = true ↔ parse.success = true ∧ parse.consumed = 5) := by
  intro options
  obtain ⟨refused, _⟩ := parseWith_accounts "\t " .compoundAnd options rfl
  obtain ⟨_, parsed⟩ := parseWith_accounts "Red and blue, too" .compoundAnd options rfl
  have visible : ∃ c ∈ "Red and blue, too".toList, Text.isBlank c = false :=
    ⟨'R', by decide, by decide⟩
  have words : Token.ofText "Red and blue, too" = ["Red", "and", "blue", ",", "too"] := by decide
  obtain ⟨parse, events, done, tokens, bound, _, either, complete⟩ := parsed visible
  rw [tokens, words] at bound complete
  have blank : ∀ c ∈ "\t ".toList, Text.isBlank c = true := List.all_eq_true.mp (by decide)
  exact ⟨rfl, refused.mpr blank, visible, parse, events, done, tokens.trans words, bound, either,
    complete⟩

end Parse

end Constituency
