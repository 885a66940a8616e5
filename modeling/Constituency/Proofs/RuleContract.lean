import Constituency.Proofs.Recursion

namespace Constituency.Rule

open Grammar

theorem recognize_protocol (rule : Rule) (config : Config) (tape : Tape)
    (suits : config.suits rule = true) :
    ∃ outcome events, rule.recognize config tape = .done outcome events ∧
      (outcome.succeeded = false →
        outcome.tape = tape ∧ outcome.tree? = none ∧ outcome.reason?.isSome = true) ∧
      (outcome.succeeded = true →
        outcome.tape.tokens = tape.tokens ∧ tape.position < outcome.tape.position ∧
          outcome.tape.position ≤ tape.length ∧ outcome.tree?.isSome = true ∧
          outcome.reason? = none) := by
  obtain ⟨outcome, events, done, kept⟩ := recognize_keeps suits tape
  refine ⟨outcome, events, done, ?_⟩
  cases outcome with
  | matched rest tree =>
      have ahead : tape.Ahead rest := kept
      have bound : rest.position ≤ tape.length := by
        rw [Tape.length, ← ahead.tokens]
        exact rest.position_le
      refine ⟨?_, fun _ => ⟨ahead.tokens, ahead.position, bound, rfl, rfl⟩⟩
      intro missed
      cases missed
  | missed reason left =>
      refine ⟨fun _ => ⟨kept, rfl, rfl⟩, ?_⟩
      intro matched
      cases matched

theorem recognize_protocol_list :
    (Config.initial.withItemRule .nounClause).suits .compoundOr = true ∧
      ∃ outcome events,
        Rule.compoundOr.recognize (Config.initial.withItemRule .nounClause)
            ⟨["the", "ball", "or", "a"], 1, by decide, by decide⟩ = .done outcome events ∧
        (outcome.succeeded = false →
          outcome.tape = ⟨["the", "ball", "or", "a"], 1, by decide, by decide⟩ ∧
            outcome.tree? = none ∧ outcome.reason?.isSome = true) ∧
        (outcome.succeeded = true →
          outcome.tape.tokens = ["the", "ball", "or", "a"] ∧ 1 < outcome.tape.position ∧
            outcome.tape.position ≤ 4 ∧ outcome.tree?.isSome = true ∧ outcome.reason? = none) :=
  ⟨rfl, recognize_protocol .compoundOr (Config.initial.withItemRule .nounClause)
    ⟨["the", "ball", "or", "a"], 1, by decide, by decide⟩ rfl⟩

theorem run_eq_recognize {rule : Rule} {config : Config} {tape : Tape} {depth : Nat}
    (suits : config.suits rule = true) (enough : depthFor tape ≤ depth) :
    run depth rule config tape = rule.recognize config tape :=
  ((run_mono enough rule config tape).eq_of_ends (recognize_keeps suits tape)).symm

theorem watched_eq_run {rule : Rule} {config : Config} {tape : Tape} {depth : Nat}
    (suits : config.suits rule = true) (enough : depthFor tape ≤ depth) :
    watched depth [] rule config tape = run depth rule config tape := by
  apply (watched_refines depth [] rule config tape).eq_of_ends
  apply watched_keeps suits (Nat.le_trans (rank_le_depthFor rule config tape) enough)
  intro frame member
  cases member

theorem depthFor_eq (tape : Tape) : depthFor tape = 4 * (tape.length - tape.position + 4) := by
  rw [depthFor, Tape.remaining_length, Tape.length]

def listMachine (config : Config) (style : Coordination.Style) (item : Rule) :
    Machine Coordination.State Coordination.Progress :=
  Coordination.machine style (item.recognize config.forItems)

def clauseMachine (config : Config) : Machine NounClause.State NounClause.Parts :=
  NounClause.machine fun item => compound.recognize (config.withItemRule item)

/-- Depth `4 * (length - position + 4)` is enough and more changes nothing; no call comes back to
the same rule with the same item rule at the same place; the rules obey their equations with no
bound; and each loop comes to a final state. A list reads something in every step that does not end
it, and a noun clause in all but one. -/
theorem recognize_terminates (rule : Rule) (config : Config) (tape : Tape)
    (suits : config.suits rule = true) :
    (∀ depth, 4 * (tape.length - tape.position + 4) ≤ depth →
      (∃ outcome events, run depth rule config tape = .done outcome events) ∧
      run depth rule config tape
        = run (4 * (tape.length - tape.position + 4)) rule config tape ∧
      watched depth [] rule config tape = run depth rule config tape) ∧
    rule.recognize config tape = once recognize rule config tape ∧
    (∀ item style conjunction, config.itemRule = some item → item.isList = false →
      (∃ last, (listMachine config style item).Reaches
          ⟨.firstItem, tape, .initial conjunction⟩ last ∧
        (listMachine config style item).Final last.state) ∧
      ∀ stage next, (listMachine config style item).Steps stage next →
        ¬ (listMachine config style item).Final next.state →
        next.tape.tokens = stage.tape.tokens ∧ stage.tape.position < next.tape.position) ∧
    (∃ last, (clauseMachine config).Reaches ⟨.start, tape, .initial⟩ last ∧
      (clauseMachine config).Final last.state) ∧
    ∀ stages, (⟨.start, tape, .initial⟩ :: stages).IsChain (clauseMachine config).Steps →
      (clauseMachine config).stalls (⟨.start, tape, .initial⟩ :: stages) ≤ 1 := by
  refine ⟨?_, recognize_eq_once suits tape, ?_, ?_⟩
  · intro depth enough
    rw [← depthFor_eq] at enough ⊢
    have same := run_eq_recognize suits enough
    obtain ⟨outcome, events, done, _⟩ := recognize_keeps suits tape
    exact ⟨⟨outcome, events, same.trans done⟩, same, watched_eq_run suits enough⟩
  · intro item style conjunction _ plain
    have keeps : ∀ later, (item.recognize config.forItems later).Ends (Outcome.Kept later) :=
      recognize_keeps (Config.suits_of_plain _ plain)
    obtain ⟨last, reaches, final, _⟩ := Coordination.read_ends fun later _ => keeps later
    refine ⟨⟨last, reaches, final⟩, ?_⟩
    intro stage next steps running
    have ahead := (Coordination.transition_of_steps steps).advances (keeps stage.tape) running
    exact ⟨ahead.tokens, ahead.position⟩
  · have keeps : ∀ item ∈ NounClause.constituents, ∀ later, tape.Within later →
        (compound.recognize (config.withItemRule item) later).Ends (Outcome.Kept later) := by
      intro item member later _
      have plain : item.isList = false := by
        revert item
        decide
      exact recognize_keeps (Config.suits_of_item rfl plain _) later
    obtain ⟨last, reaches, final, _⟩ := NounClause.read_ends keeps
    refine ⟨⟨last, reaches, final⟩, ?_⟩
    intro stages run
    exact NounClause.stalls_le_credit keeps (.refl tape) run

theorem recognize_terminates_clauses :
    let config := Config.initial.withItemRule .nounClause
    let tape : Tape := ⟨["a", "ball", ",", "the", "red", "bat"], 0, by decide, by decide⟩
    let style := listStyle config false true
    config.suits .compound = true ∧
    (∃ outcome events, run 40 .compound config tape = .done outcome events) ∧
    run 41 .compound config tape = run 40 .compound config tape ∧
    watched 40 [] .compound config tape = run 40 .compound config tape ∧
    (∃ last, (listMachine config style .nounClause).Reaches
        ⟨.firstItem, tape, .initial none⟩ last ∧
      (listMachine config style .nounClause).Final last.state) ∧
    ∃ last, (clauseMachine config).Reaches ⟨.start, tape, .initial⟩ last ∧
      (clauseMachine config).Final last.state := by
  intro config tape style
  obtain ⟨bounded, _, lists, clauses, _⟩ := recognize_terminates .compound config tape rfl
  obtain ⟨ends, _, apart⟩ := bounded 40 (by decide)
  obtain ⟨_, more, _⟩ := bounded 41 (by decide)
  exact ⟨rfl, ends, more, apart, (lists .nounClause style none rfl rfl).1, clauses⟩

end Constituency.Rule
