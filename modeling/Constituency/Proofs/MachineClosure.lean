import Constituency.Proofs.MachineRuns

namespace Constituency

def Run.answer {α : Type} : Run α → Except Fault α
  | .fault cause => .error cause
  | .done value _ => .ok value

namespace Run

variable {α β : Type}

theorem answer_bind (first : Run α) (next : α → Run β) :
    (first >>= next).answer = first.answer.bind fun value => (next value).answer := by
  cases first with
  | fault cause => rfl
  | done value events =>
      rw [bind_eq, andThen]
      cases second : next value <;> simp only [answer, second, Except.bind]

end Run

namespace Machine

variable {σ α : Type}

/-- No step leads on from a stage that is not final: its state has no handler, or the handler itself
faults. A handler that does not end gives no fault. -/
inductive Faults (machine : Machine σ α) (stage : Stage σ α) : Fault → Prop
  | unhandled (running : ¬ machine.Final stage.state)
      (missing : machine.handler stage.state = none) :
      Faults machine stage (.unhandledState machine.name (machine.stateName stage.state))
  | faulted {step cause} (running : ¬ machine.Final stage.state)
      (handled : machine.handler stage.state = some step)
      (ran : step stage.tape stage.gathered = .fault cause) (panics : cause ≠ .exhausted) :
      Faults machine stage cause

theorem Faults.not_exhausted {machine : Machine σ α} {stage : Stage σ α} {cause : Fault}
    (faults : machine.Faults stage cause) : cause ≠ .exhausted := by
  cases faults with
  | unhandled running missing => simp
  | faulted running handled ran panics => exact panics

def HandlersReturn (machine : Machine σ α) : Prop :=
  ∀ state step tape gathered, machine.handler state = some step →
    ∃ next events, step tape gathered = .done next events

theorem HandlersReturn.faults_iff {machine : Machine σ α} {last : Stage σ α} {cause : Fault}
    (returning : machine.HandlersReturn) :
    machine.Faults last cause ↔ ¬ machine.Final last.state ∧ machine.handler last.state = none ∧
      cause = .unhandledState machine.name (machine.stateName last.state) := by
  constructor
  · intro faults
    cases faults with
    | unhandled running missing => exact ⟨running, missing, rfl⟩
    | faulted running handled ran panics =>
        obtain ⟨next, events, done⟩ := returning _ _ last.tape last.gathered handled
        cases done.symm.trans ran
  · rintro ⟨running, missing, rfl⟩
    exact .unhandled running missing

variable [DecidableEq σ]

def Returns (machine : Machine σ α) (tape : Tape) (gathered : α) (outcome : Outcome) : Prop :=
  ∃ enough, ∀ budget, enough ≤ budget → (machine.run budget tape gathered).answer = .ok outcome

/-- With a large enough budget the machine faults, for a reason other than its budget. -/
def Panics (machine : Machine σ α) (tape : Tape) (gathered : α) (cause : Fault) : Prop :=
  cause ≠ .exhausted ∧
    ∃ enough, ∀ budget, enough ≤ budget → (machine.run budget tape gathered).answer = .error cause

def Diverges (machine : Machine σ α) (tape : Tape) (gathered : α) : Prop :=
  ∀ budget, (machine.run budget tape gathered).answer = .error .exhausted

variable {machine : Machine σ α} {home : Tape} {stage next last : Stage σ α} {cause : Fault}

theorem answer_final (final : machine.Final stage.state) (budget : Nat) :
    (machine.drive home (budget + 1) stage).answer = .ok (machine.conclude home stage) := by
  obtain ⟨outcome, events, done, rfl⟩ := drive_final final home budget
  rw [done]
  rfl

theorem answer_running (running : ¬ machine.Final stage.state) (budget : Nat) :
    (machine.drive home (budget + 1) stage).answer =
      match machine.handler stage.state with
      | none => .error (.unhandledState machine.name (machine.stateName stage.state))
      | some step => (step stage.tape stage.gathered).answer.bind fun next =>
          (machine.drive home budget next).answer := by
  have notAccepting : stage.state ∉ machine.accepting := fun found => running (.inl found)
  have notRejecting : stage.state ∉ machine.rejecting := fun found => running (.inr found)
  simp only [drive, if_neg notAccepting, if_neg notRejecting]
  cases machine.handler stage.state with
  | none => rfl
  | some step =>
      simp only [Run.answer_bind]
      rfl

theorem answer_steps (steps : machine.Steps stage next) (budget : Nat) :
    (machine.drive home (budget + 1) stage).answer = (machine.drive home budget next).answer := by
  obtain ⟨events, same⟩ := drive_onward steps home
  rw [same, Run.answer_bind]
  rfl

theorem answer_faults (faults : machine.Faults stage cause) (budget : Nat) :
    (machine.drive home (budget + 1) stage).answer = .error cause := by
  cases faults with
  | unhandled running missing => rw [answer_running running, missing]
  | faulted running handled ran panics =>
      rw [answer_running running, handled]
      simp only [ran]
      rfl

theorem answer_reaches (reaches : machine.Reaches stage last) (home : Tape) :
    ∃ count, ∀ budget, (machine.drive home (count + budget) stage).answer =
      (machine.drive home budget last).answer := by
  induction reaches using Relation.ReflTransGen.head_induction_on with
  | refl => exact ⟨0, fun budget => by rw [Nat.zero_add]⟩
  | head steps _ ih =>
      obtain ⟨count, same⟩ := ih
      refine ⟨count + 1, fun budget => ?_⟩
      rw [Nat.add_right_comm, answer_steps steps, same]

theorem answer_cases (home : Tape) (budget : Nat) (stage : Stage σ α) :
    (∃ last, machine.Reaches stage last ∧ machine.Final last.state ∧
      (machine.drive home budget stage).answer = .ok (machine.conclude home last)) ∨
    (∃ last cause, machine.Reaches stage last ∧ machine.Faults last cause ∧
      (machine.drive home budget stage).answer = .error cause) ∨
    (machine.drive home budget stage).answer = .error .exhausted := by
  induction budget generalizing stage with
  | zero => exact .inr (.inr rfl)
  | succ budget ih =>
      by_cases final : machine.Final stage.state
      · exact .inl ⟨stage, .refl, final, answer_final final budget⟩
      · cases handled : machine.handler stage.state with
        | none =>
            have faults := Faults.unhandled final handled
            exact .inr (.inl ⟨stage, _, .refl, faults, answer_faults faults budget⟩)
        | some step =>
            cases ran : step stage.tape stage.gathered with
            | fault cause =>
                by_cases exhausted : cause = .exhausted
                · right; right
                  rw [answer_running final, handled]
                  simp only [ran, exhausted]
                  rfl
                · have faults := Faults.faulted final handled ran exhausted
                  exact .inr (.inl ⟨stage, _, .refl, faults, answer_faults faults budget⟩)
            | done next events =>
                have steps : machine.Steps stage next := ⟨final, step, events, handled, ran⟩
                rw [answer_steps steps]
                rcases ih next with ⟨last, reaches, found⟩ | ⟨last, cause, reaches, found⟩ | used
                · exact .inl ⟨last, .head steps reaches, found⟩
                · exact .inr (.inl ⟨last, cause, .head steps reaches, found⟩)
                · exact .inr (.inr used)

section Running

variable {tape : Tape} {gathered : α}

theorem returns_iff {outcome : Outcome} :
    machine.Returns tape gathered outcome ↔
      ∃ last, machine.Reaches ⟨machine.start, tape, gathered⟩ last ∧ machine.Final last.state ∧
        outcome = machine.conclude tape last := by
  constructor
  · rintro ⟨enough, answers⟩
    have answer := answers enough (Nat.le_refl _)
    rcases answer_cases tape enough ⟨machine.start, tape, gathered⟩ with
      ⟨last, reaches, final, concluded⟩ | ⟨_, _, _, _, faulted⟩ | used
    · exact ⟨last, reaches, final, Except.ok.inj (answer.symm.trans concluded)⟩
    · cases answer.symm.trans faulted
    · cases answer.symm.trans used
  · rintro ⟨last, reaches, final, rfl⟩
    obtain ⟨count, same⟩ := answer_reaches reaches tape
    refine ⟨count + 1, fun budget enough => ?_⟩
    obtain ⟨more, rfl⟩ := Nat.exists_eq_add_of_le enough
    rw [run, Nat.add_assoc, same, Nat.add_comm, answer_final final]

theorem panics_iff :
    machine.Panics tape gathered cause ↔
      ∃ last, machine.Reaches ⟨machine.start, tape, gathered⟩ last ∧ machine.Faults last cause := by
  constructor
  · rintro ⟨panics, enough, answers⟩
    have answer := answers enough (Nat.le_refl _)
    rcases answer_cases tape enough ⟨machine.start, tape, gathered⟩ with
      ⟨_, _, _, concluded⟩ | ⟨last, _, reaches, faults, faulted⟩ | used
    · cases answer.symm.trans concluded
    · cases answer.symm.trans faulted
      exact ⟨last, reaches, faults⟩
    · cases answer.symm.trans used
      exact absurd rfl panics
  · rintro ⟨last, reaches, faults⟩
    obtain ⟨count, same⟩ := answer_reaches reaches tape
    refine ⟨faults.not_exhausted, count + 1, fun budget enough => ?_⟩
    obtain ⟨more, rfl⟩ := Nat.exists_eq_add_of_le enough
    rw [run, Nat.add_assoc, same, Nat.add_comm, answer_faults faults]

theorem diverges_iff :
    machine.Diverges tape gathered ↔
      (¬ ∃ outcome, machine.Returns tape gathered outcome) ∧
        ¬ ∃ cause, machine.Panics tape gathered cause := by
  constructor
  · intro diverges
    constructor
    · rintro ⟨outcome, enough, answers⟩
      cases (diverges enough).symm.trans (answers enough (Nat.le_refl _))
    · rintro ⟨cause, panics, enough, answers⟩
      cases (diverges enough).symm.trans (answers enough (Nat.le_refl _))
      exact panics rfl
  · rintro ⟨unanswered, calm⟩ budget
    rcases answer_cases tape budget ⟨machine.start, tape, gathered⟩ with
      ⟨last, reaches, final, _⟩ | ⟨last, cause, reaches, faults, _⟩ | used
    · exact absurd ⟨_, returns_iff.mpr ⟨last, reaches, final, rfl⟩⟩ unanswered
    · exact absurd ⟨cause, panics_iff.mpr ⟨last, reaches, faults⟩⟩ calm
    · exact used

end Running

/-- A machine matches where its steps come to an accepting state, and misses where they come to a
rejecting one that does not accept; since no step leads out of a final state, that is the first
final state of the run. It faults where the steps come to a state without a handler, or to a handler
that faults itself, and in all other cases it does not return. -/
theorem run_iff_reaches (machine : Machine σ α) (tape : Tape) (gathered : α) :
    (∀ rest tree, machine.Returns tape gathered (.matched rest tree) ↔
      ∃ state value, machine.Reaches ⟨machine.start, tape, gathered⟩ ⟨state, rest, value⟩ ∧
        state ∈ machine.accepting ∧ tree = machine.finish state value) ∧
    (∀ reason left, machine.Returns tape gathered (.missed reason left) ↔
      left = tape ∧ ∃ last, machine.Reaches ⟨machine.start, tape, gathered⟩ last ∧
        last.state ∈ machine.rejecting ∧ last.state ∉ machine.accepting ∧
        reason = machine.name ++ " stopped in state " ++ machine.stateName last.state
          ++ " at token " ++ toString last.tape.position) ∧
    (∀ cause, machine.Panics tape gathered cause ↔
      ∃ last, machine.Reaches ⟨machine.start, tape, gathered⟩ last ∧ machine.Faults last cause) ∧
    (machine.HandlersReturn → ∀ cause, machine.Panics tape gathered cause ↔
      ∃ last, machine.Reaches ⟨machine.start, tape, gathered⟩ last ∧
        ¬ machine.Final last.state ∧ machine.handler last.state = none ∧
        cause = .unhandledState machine.name (machine.stateName last.state)) ∧
    (machine.Diverges tape gathered ↔
      (¬ ∃ outcome, machine.Returns tape gathered outcome) ∧
        ¬ ∃ cause, machine.Panics tape gathered cause) := by
  refine ⟨?_, ?_, fun _ => panics_iff, ?_, diverges_iff⟩
  · intro rest tree
    rw [returns_iff]
    constructor
    · rintro ⟨last, reaches, final, concluded⟩
      by_cases accepts : last.state ∈ machine.accepting
      · rw [conclude, if_pos accepts] at concluded
        cases concluded
        exact ⟨last.state, last.gathered, reaches, accepts, rfl⟩
      · rw [conclude, if_neg accepts] at concluded
        cases concluded
    · rintro ⟨state, value, reaches, accepts, rfl⟩
      exact ⟨_, reaches, .inl accepts, by rw [conclude, if_pos accepts]⟩
  · intro reason left
    rw [returns_iff]
    constructor
    · rintro ⟨last, reaches, final, concluded⟩
      by_cases accepts : last.state ∈ machine.accepting
      · rw [conclude, if_pos accepts] at concluded
        cases concluded
      · rw [conclude, if_neg accepts] at concluded
        cases concluded
        exact ⟨rfl, last, reaches, final.resolve_left accepts, accepts, rfl⟩
    · rintro ⟨rfl, last, reaches, rejects, refuses, rfl⟩
      exact ⟨last, reaches, .inr rejects, by rw [conclude, if_neg refuses]⟩
  · intro returning cause
    simp only [panics_iff, returning.faults_iff]

theorem run_iff_reaches_overlap :
    let turn : Machine Bool Unit :=
      { name := "Turn", start := false, accepting := [true], rejecting := [true]
        handler := fun last =>
          if last then none else some fun tape _ => pure ⟨true, tape.rewind, ()⟩
        finish := fun _ _ => .sequence [], stateName := toString }
    let tape : Tape := ⟨["A", "B"], 1, by decide, by decide⟩
    turn.HandlersReturn ∧ turn.Returns tape () (.matched tape.rewind (.sequence [])) ∧
      ∀ cause, ¬ turn.Panics tape () cause := by
  intro turn tape
  have returning : turn.HandlersReturn := by
    intro state step tape gathered handled
    cases state with
    | false =>
        cases handled
        exact ⟨_, _, rfl⟩
    | true => cases handled
  have turned : turn.Steps ⟨false, tape, ()⟩ ⟨true, tape.rewind, ()⟩ :=
    ⟨by simp [Final, turn], _, _, rfl, rfl⟩
  obtain ⟨matched, _, _, panics, _⟩ := run_iff_reaches turn tape ()
  refine ⟨returning, ?_, fun cause panicked => ?_⟩
  · exact (matched _ _).mpr ⟨true, (), .single turned, List.mem_singleton_self true, rfl⟩
  · obtain ⟨last, _, running, missing, _⟩ := (panics returning cause).mp panicked
    cases found : last.state <;> simp [turn, Final, found] at running missing

end Machine

end Constituency
