import Constituency.Proofs.AlikeRuns

namespace Constituency

namespace Tape

def precededBy (tape : Tape) (before : List String) : Tape where
  tokens := before ++ tape.tokens
  position := before.length + tape.position
  nonempty := by simp [tape.nonempty]
  position_le := by
    rw [List.length_append]
    exact Nat.add_le_add_left tape.position_le _

theorem remaining_precededBy (tape : Tape) (before : List String) :
    (tape.precededBy before).remaining = tape.remaining := by
  simp [precededBy, remaining, List.drop_append]

theorem position_add_remaining (tape : Tape) :
    tape.position + tape.remaining.length = tape.tokens.length := by
  have bound := tape.position_le
  rw [remaining_length]
  omega

end Tape

theorem Lexicon.indifferent_id (lexicon : Lexicon) : lexicon.Indifferent id where
  comma := by
    intro first second same
    rw [show first = second from same]
  word := by
    intro first second word same
    rw [show first = second from same]
  classify := by
    intro first second same
    rw [show first = second from same]

namespace Rule

theorem recognize_of_remaining {rule : Rule} {config : Config} {left right : Tape}
    (suits : config.suits rule = true) (same : left.remaining = right.remaining) :
    ∃ first early second late, rule.recognize config left = .done first early ∧
      rule.recognize config right = .done second late ∧
      first.succeeded = second.succeeded ∧ first.tree? = second.tree? ∧
      first.tape.remaining = second.tape.remaining ∧
      first.tape.tokens = left.tokens ∧ second.tape.tokens = right.tokens := by
  have alike : left.Alike id right := congrArg (List.map id) same
  obtain ⟨first, early, second, late, ran, ran', outcomes, tokens, tokens'⟩ :=
    recognize_alike suits (Lexicon.indifferent_id config.lexicon) alike
  have trees : first.tree? = second.tree? := by
    have respelled := outcomes.tree
    rwa [show Tree.respell id = id from funext Tree.respell_id, Option.map_id_apply,
      Option.map_id_apply] at respelled
  have rests : first.tape.remaining = second.tape.remaining := by
    simpa only [Tape.Alike, List.map_id] using outcomes.tape
  exact ⟨first, early, second, late, ran, ran', outcomes.succeeded, trees, rests, tokens, tokens'⟩

/-- Put behind other tokens, a tape gives the same match with the same tree, as much further on as
there are tokens before it. No two tapes on which the same tokens remain are told apart. -/
theorem recognize_precededBy (rule : Rule) (config : Config) (tape : Tape)
    (suits : config.suits rule = true) :
    ∃ outcome events, rule.recognize config tape = .done outcome events ∧
      (∀ before : List String, ∃ shifted later,
        rule.recognize config (tape.precededBy before) = .done shifted later ∧
        shifted.succeeded = outcome.succeeded ∧ shifted.tree? = outcome.tree? ∧
        shifted.tape.position = before.length + outcome.tape.position ∧
        shifted.tape.remaining = outcome.tape.remaining) ∧
      ∀ other : Tape, other.remaining = tape.remaining → ∃ shifted later,
        rule.recognize config other = .done shifted later ∧
        shifted.succeeded = outcome.succeeded ∧ shifted.tree? = outcome.tree? ∧
        shifted.tape.remaining = outcome.tape.remaining := by
  obtain ⟨outcome, events, done, kept⟩ := recognize_keeps suits tape
  refine ⟨outcome, events, done, ?_, ?_⟩
  · intro before
    obtain ⟨shifted, later, same, events', ran, ran', successes, trees, rests, tokens, tokens'⟩ :=
      recognize_of_remaining suits (tape.remaining_precededBy before)
    cases ran'.symm.trans done
    refine ⟨shifted, later, ran, successes, trees, ?_, rests⟩
    have total : shifted.tape.tokens.length = before.length + outcome.tape.tokens.length := by
      rw [tokens, tokens', Tape.precededBy, List.length_append]
    have here := shifted.tape.position_add_remaining
    have there := outcome.tape.position_add_remaining
    rw [rests] at here
    omega
  · intro other remains
    obtain ⟨shifted, later, same, events', ran, ran', successes, trees, rests, _, _⟩ :=
      recognize_of_remaining suits remains
    cases ran'.symm.trans done
    exact ⟨shifted, later, ran, successes, trees, rests⟩

theorem recognize_precededBy_clause :
    let tape : Tape := ⟨["Kick", "the", "ball", "!"], 1, by decide, by decide⟩
    Config.initial.suits .nounClause = true ∧
    ∃ outcome events, nounClause.recognize Config.initial tape = .done outcome events ∧
      ∃ shifted later,
        nounClause.recognize Config.initial (tape.precededBy ["Or", "else", ","])
          = .done shifted later ∧
        shifted.succeeded = outcome.succeeded ∧ shifted.tree? = outcome.tree? ∧
        shifted.tape.position = 3 + outcome.tape.position ∧
        shifted.tape.remaining = outcome.tape.remaining := by
  intro tape
  obtain ⟨outcome, events, done, shifts, _⟩ :=
    recognize_precededBy .nounClause Config.initial tape rfl
  exact ⟨rfl, outcome, events, done, shifts ["Or", "else", ","]⟩

end Rule

end Constituency
