import Constituency.Proofs.CallDepth

/-!
The recursion of the grammar. A deeper bound on calls refines a shallower one, and so does leaving
out the watch for calls that come back to themselves. Hence `Rule.recognize` obeys the equation of
a grammar whose rules call each other with no bound at all.
-/

namespace Constituency.Grammar

section Refinement

variable {early late : Caller}
  (refines : ∀ rule config tape, Run.Refines (early rule config tape) (late rule config tape))

include refines

theorem search_refines (rules : List Rule) (config : Config) (tape : Tape) :
    Run.Refines
      (Recognizer.search config tape (rules.map fun rule => ⟨rule.name, early rule⟩))
      (Recognizer.search config tape (rules.map fun rule => ⟨rule.name, late rule⟩)) := by
  induction rules with
  | nil => exact .refl _
  | cons rule rules ih =>
      apply (refines rule config tape).bind
      intro outcome
      cases outcome with
      | matched rest tree => exact .refl _
      | missed reason left =>
          apply Run.Refines.bind_right
          intro _
          exact ih.bind_left _

theorem choice_refines (rules : List Rule) (config : Config) (tape : Tape) :
    Run.Refines (choice early rules config tape) (choice late rules config tape) :=
  (search_refines refines rules config tape).bind_left _

theorem chain_refines (rules : List Rule) (config : Config) (tape : Tape) :
    Run.Refines
      (Recognizer.chain config (rules.map fun rule => ⟨rule.name, early rule⟩) tape)
      (Recognizer.chain config (rules.map fun rule => ⟨rule.name, late rule⟩) tape) := by
  induction rules generalizing tape with
  | nil => exact .refl _
  | cons rule rules ih =>
      apply (refines rule config tape).bind
      intro outcome
      cases outcome with
      | missed reason left => exact .refl _
      | matched rest tree => exact (ih rest).bind_left _

theorem pair_refines (first second : Rule) (join : Tree → Tree → Tree) (config : Config)
    (tape : Tape) :
    Run.Refines (pair early first second join config tape)
      (pair late first second join config tape) := by
  have chained := chain_refines refines [first, second] config tape
  exact (chained.bind_left _).bind_left _

theorem list_refines (caller : Rule) (conjunction : Option Conjunction)
    (requireList fallback : Bool) (config : Config) (tape : Tape) :
    Run.Refines (list early caller conjunction requireList fallback config tape)
      (list late caller conjunction requireList fallback config tape) := by
  apply Run.Refines.bind_right
  intro item
  exact Coordination.read_refines (refines item config.forItems) conjunction tape

theorem body_refines (rule : Rule) (config : Config) (tape : Tape) :
    Run.Refines (body early rule config tape) (body late rule config tape) := by
  cases rule with
  | compoundAnd | compoundOr | compound => exact list_refines refines _ _ _ _ config tape
  | nounClause =>
      apply NounClause.read_refines
      intro item later
      exact refines .compound (config.withItemRule item) later
  | noun | prepAdjectivalPhrase | sentence | subjectClause | verbObjectClause =>
      exact choice_refines refines _ config tape
  | objectClause => exact choice_refines refines _ _ tape
  | prepNounClause | statement | transitiveVerbObjectClause =>
      exact pair_refines refines _ _ _ config tape
  | dummy | adjective | singularNoun | pluralNoun | preposition | prepWord | transitiveVerb
  | question | command | pronounClause | gerundClause | prepNounPhrase
  | intransitiveVerbObjectClause => exact .refl _

end Refinement

def once (call : Caller) : Caller := fun rule config tape => do
  let outcome ← body call rule config tape
  Run.emit (.finished rule tape.position outcome.tape.position outcome.succeeded)
  pure outcome

theorem run_succ (depth : Nat) : run (depth + 1) = once (run depth) := rfl

theorem once_refines {early late : Caller}
    (refines : ∀ rule config tape, Run.Refines (early rule config tape) (late rule config tape))
    (rule : Rule) (config : Config) (tape : Tape) :
    Run.Refines (once early rule config tape) (once late rule config tape) :=
  (body_refines refines rule config tape).bind_left _

theorem once_ends {call : Caller} {rule : Rule} {config : Config} {tape : Tape}
    {good : Outcome → Prop} (ends : (body call rule config tape).Ends good) :
    (once call rule config tape).Ends good := by
  apply ends.bind
  intro outcome holds
  exact Run.emit_bind_ends (Run.ends_pure holds)

theorem run_mono {depth deeper : Nat} (le : depth ≤ deeper) (rule : Rule) (config : Config)
    (tape : Tape) : Run.Refines (run depth rule config tape) (run deeper rule config tape) := by
  induction depth generalizing deeper rule config tape with
  | zero => exact .of_fault _
  | succ depth ih =>
      obtain ⟨below, rfl⟩ : ∃ below, deeper = below + 1 := ⟨deeper - 1, by omega⟩
      rw [run_succ, run_succ]
      exact once_refines (fun rule config tape => ih (by omega) rule config tape) rule config tape

structure Frame where
  rule : Rule
  item : Option Rule
  position : Nat
  deriving DecidableEq, Repr

/-- Runs a rule as `run` does, but refuses a call that is already in progress further out. -/
def watched : Nat → List Frame → Caller
  | 0, _, _, _, _ => .fault .exhausted
  | depth + 1, active, rule, config, tape =>
    if ⟨rule, config.itemRule, tape.position⟩ ∈ active then .fault .exhausted
    else once (watched depth (⟨rule, config.itemRule, tape.position⟩ :: active)) rule config tape

theorem watched_refines (depth : Nat) (active : List Frame) (rule : Rule) (config : Config)
    (tape : Tape) :
    Run.Refines (watched depth active rule config tape) (run depth rule config tape) := by
  induction depth generalizing active rule config tape with
  | zero => exact .of_fault _
  | succ depth ih =>
      rw [watched, run_succ]
      split
      · exact .of_fault _
      · exact once_refines (fun rule config tape => ih _ rule config tape) rule config tape

def Frame.rank (frame : Frame) (length : Nat) : Nat :=
  4 * (length - frame.position) + height frame.rule frame.item

theorem rank_eq_frame (rule : Rule) (config : Config) (tape : Tape) :
    rank rule config tape
      = Frame.rank ⟨rule, config.itemRule, tape.position⟩ tape.tokens.length := by
  rw [rank, Tape.remaining_length, Frame.rank]

/-- Calls in progress all have higher ranks, so none of them is ever called again. -/
theorem watched_keeps {depth : Nat} {active : List Frame} {rule : Rule} {config : Config}
    {tape : Tape} (suits : config.suits rule = true) (enough : rank rule config tape ≤ depth)
    (higher : ∀ frame ∈ active, rank rule config tape < frame.rank tape.tokens.length) :
    (watched depth active rule config tape).Ends (Outcome.Kept tape) := by
  induction depth generalizing active rule config tape with
  | zero =>
      have positive := (height_le rule config.itemRule).1
      simp only [rank] at enough
      omega
  | succ depth ih =>
      have fresh : ⟨rule, config.itemRule, tape.position⟩ ∉ active := by
        intro found
        have above := higher _ found
        rw [rank_eq_frame] at above
        exact Nat.lt_irrefl _ above
      rw [watched, if_neg fresh]
      apply once_ends
      apply body_keeps suits
      intro inner settings later innerSuits tokens lower
      apply ih innerSuits (by omega)
      intro frame member
      rw [tokens]
      rcases List.mem_cons.mp member with rfl | outer
      · rw [← rank_eq_frame]
        exact lower
      · exact Nat.lt_trans lower (higher frame outer)

theorem run_keeps {depth : Nat} {rule : Rule} {config : Config} {tape : Tape}
    (suits : config.suits rule = true) (enough : rank rule config tape ≤ depth) :
    (run depth rule config tape).Ends (Outcome.Kept tape) := by
  apply (watched_refines depth [] rule config tape).ends
  apply watched_keeps suits enough
  intro frame member
  cases member

theorem read_of_fault {style : Coordination.Style} {conjunction : Option Conjunction}
    {item : Tape → Run Outcome} {tape : Tape} {cause : Fault} (faults : item tape = .fault cause) :
    Coordination.read style conjunction item tape = .fault cause := by
  simp [Coordination.read, Machine.run, Machine.drive, Coordination.machine,
    Coordination.handler, Coordination.readFirstItem, Coordination.takeItem, faults]

/-- Lists of lists never end: the first item of the outer list begins where that list begins. -/
theorem run_list_of_lists {rule item : Rule} {config : Config} (listed : rule.isList = true)
    (given : config.itemRule = some item) (itemListed : item.isList = true) (depth : Nat)
    (tape : Tape) : run depth rule config tape = .fault .exhausted := by
  induction depth generalizing rule config with
  | zero => rfl
  | succ depth ih =>
      have inner : run depth item config.forItems tape = .fault .exhausted :=
        ih itemListed given
      have outer : body (run depth) rule config tape = .fault .exhausted := by
        cases rule with
        | compoundAnd | compoundOr | compound =>
            simp only [body, list_eq given]
            exact read_of_fault inner
        | _ => cases listed
      rw [run_succ, once, outer]
      rfl

theorem run_without_item {rule : Rule} {config : Config} (listed : rule.isList = true)
    (missing : config.itemRule = none) (depth : Nat) (tape : Tape) :
    run (depth + 1) rule config tape = .fault (.missingItemRule rule.name) := by
  have outer : body (run depth) rule config tape = .fault (.missingItemRule rule.name) := by
    cases rule with
    | compoundAnd | compoundOr | compound =>
        simp only [body, list, Config.itemRuleFor, missing, Run.fault_bind]
    | _ => cases listed
  rw [run_succ, once, outer]
  rfl

theorem suits_of_run {depth : Nat} {rule : Rule} {config : Config} {tape : Tape}
    {outcome : Outcome} {events : List Event}
    (done : run depth rule config tape = .done outcome events) : config.suits rule = true := by
  -- A configuration that does not suit the rule makes it fault at every depth.
  cases listed : rule.isList with
  | false => exact config.suits_of_plain listed
  | true =>
      cases given : config.itemRule with
      | none =>
          cases depth with
          | zero => cases done
          | succ depth => cases (run_without_item listed given depth tape).symm.trans done
      | some item =>
          cases itemListed : item.isList with
          | false => exact Config.suits_of_item given itemListed rule
          | true => cases (run_list_of_lists listed given itemListed depth tape).symm.trans done

theorem run_refines_recognize (depth : Nat) (rule : Rule) (config : Config) (tape : Tape) :
    Run.Refines (run depth rule config tape) (rule.recognize config tape) := by
  intro outcome events done
  have ends := run_keeps (suits_of_run done) (rank_le_depthFor rule config tape)
  -- The rule's own bound may be the smaller one, so both are compared with the larger of the two.
  have deep := run_mono (Nat.le_max_left depth (depthFor tape)) rule config tape
  have own := run_mono (Nat.le_max_right depth (depthFor tape)) rule config tape
  rw [Rule.recognize, own.eq_of_ends ends]
  exact deep outcome events done

end Constituency.Grammar

namespace Constituency.Rule

open Grammar

variable {rule : Rule} {config : Config}

theorem recognize_keeps (suits : config.suits rule = true) (tape : Tape) :
    (rule.recognize config tape).Ends (Outcome.Kept tape) :=
  run_keeps suits (rank_le_depthFor rule config tape)

theorem kept_of_done {tape : Tape} {outcome : Outcome} {events : List Event}
    (done : rule.recognize config tape = .done outcome events) : outcome.Kept tape := by
  obtain ⟨found, early, ran, kept⟩ := recognize_keeps (suits_of_run done) tape
  cases ran.symm.trans done
  exact kept

/-- The rules call each other as if there were no bound on the depth of calls. -/
theorem recognize_eq_once (suits : config.suits rule = true) (tape : Tape) :
    rule.recognize config tape = once recognize rule config tape := by
  have ends := recognize_keeps suits tape
  -- Nested calls are left a bound of one less, which may be more or less than their own.
  have unfolded : rule.recognize config tape
      = once (run (4 * tape.remaining.length + 15)) rule config tape := rfl
  rw [unfolded] at ends ⊢
  exact (once_refines (run_refines_recognize _) rule config tape).eq_of_ends ends

end Constituency.Rule
