import Mathlib.Logic.Relation
import Constituency.Machine
import Constituency.Proofs.OutcomeProtocol

/-!
Runs of state machines as a relation between stages. A machine steps from a stage that is not final
to the stage its handler gives, so it reaches at most one final stage; driving the machine with a
large enough budget concludes there.
-/

namespace Constituency.Machine

variable {σ α : Type}

def Final (machine : Machine σ α) (state : σ) : Prop :=
  state ∈ machine.accepting ∨ state ∈ machine.rejecting

instance [DecidableEq σ] (machine : Machine σ α) (state : σ) : Decidable (machine.Final state) :=
  inferInstanceAs (Decidable (_ ∨ _))

/-- One step of the table, from a stage that is not final. -/
def Steps (machine : Machine σ α) (stage next : Stage σ α) : Prop :=
  ¬ machine.Final stage.state ∧ ∃ step events,
    machine.handler stage.state = some step ∧ step stage.tape stage.gathered = .done next events

def Reaches (machine : Machine σ α) : Stage σ α → Stage σ α → Prop :=
  Relation.ReflTransGen machine.Steps

theorem steps_unique {machine : Machine σ α} : Relator.RightUnique machine.Steps := by
  intro stage first second left right
  rcases left with ⟨_, step, _, handled, stepped⟩
  rcases right with ⟨_, other, _, handled', stepped'⟩
  cases handled.symm.trans handled'
  cases stepped.symm.trans stepped'
  rfl

theorem eq_of_final_reaches {machine : Machine σ α} {stage last : Stage σ α}
    (final : machine.Final stage.state) (reaches : machine.Reaches stage last) : last = stage := by
  rcases Relation.ReflTransGen.cases_head reaches with same | ⟨next, steps, _⟩
  · exact same.symm
  · exact absurd final steps.1

theorem reaches_final_unique {machine : Machine σ α} {stage first second : Stage σ α}
    (left : machine.Reaches stage first) (leftFinal : machine.Final first.state)
    (right : machine.Reaches stage second) (rightFinal : machine.Final second.state) :
    first = second := by
  rcases Relation.ReflTransGen.total_of_right_unique steps_unique left right with on | back
  · exact (eq_of_final_reaches leftFinal on).symm
  · exact eq_of_final_reaches rightFinal back

theorem reaches_keeps {machine : Machine σ α} {keeps : Stage σ α → Prop}
    (step : ∀ stage next, keeps stage → machine.Steps stage next → keeps next)
    {stage last : Stage σ α} (start : keeps stage) (reaches : machine.Reaches stage last) :
    keeps last := by
  induction reaches with
  | refl => exact start
  | tail _ steps ih => exact step _ _ ih steps

variable [DecidableEq σ]

/-- How many steps of a run go on to a stage that is not final without moving the head. -/
def stalls (machine : Machine σ α) : List (Stage σ α) → Nat
  | stage :: next :: others =>
    (if machine.Final next.state ∨ stage.tape.position < next.tape.position then 0 else 1)
      + stalls machine (next :: others)
  | _ => 0

def conclude (machine : Machine σ α) (home : Tape) (last : Stage σ α) : Outcome :=
  if last.state ∈ machine.accepting then
    .matched last.tape (machine.finish last.state last.gathered)
  else
    .missed (machine.name ++ " stopped in state " ++ machine.stateName last.state
      ++ " at token " ++ toString last.tape.position) home

theorem conclude_kept {machine : Machine σ α} {home : Tape} {last : Stage σ α}
    (ahead : last.state ∈ machine.accepting → home.Ahead last.tape) :
    (machine.conclude home last).Kept home := by
  unfold conclude
  split
  next accepts => exact ahead accepts
  next => rfl

theorem drive_final {machine : Machine σ α} {stage : Stage σ α}
    (final : machine.Final stage.state) (home : Tape) (budget : Nat) :
    (machine.drive home (budget + 1) stage).Ends (· = machine.conclude home stage) := by
  by_cases accepts : stage.state ∈ machine.accepting
  · simp only [drive, conclude, if_pos accepts]
    exact Run.emit_bind_ends (Run.ends_pure rfl)
  · have rejects : stage.state ∈ machine.rejecting := final.resolve_left accepts
    simp only [drive, conclude, if_neg accepts, if_pos rejects]
    exact Run.emit_bind_ends (Run.ends_pure rfl)

theorem drive_onward {machine : Machine σ α} {stage next : Stage σ α}
    (steps : machine.Steps stage next) (home : Tape) :
    ∃ events, ∀ budget, machine.drive home (budget + 1) stage =
      (Run.done () events >>= fun _ => machine.drive home budget next) := by
  obtain ⟨running, step, events, handled, stepped⟩ := steps
  have notAccepting : stage.state ∉ machine.accepting := fun found => running (.inl found)
  have notRejecting : stage.state ∉ machine.rejecting := fun found => running (.inr found)
  refine ⟨events ++ [.stepped machine.name (machine.stateName stage.state)
    (machine.stateName next.state) next.tape.position], fun budget => ?_⟩
  simp only [drive, if_neg notAccepting, if_neg notRejecting, handled, stepped]
  cases ran : machine.drive home budget next <;>
    simp [Run.bind_eq, Run.andThen, Run.emit, ran]

theorem drive_step {machine : Machine σ α} {stage next : Stage σ α}
    (steps : machine.Steps stage next) {home : Tape} {budget : Nat} {good : Outcome → Prop}
    (ends : (machine.drive home budget next).Ends good) :
    (machine.drive home (budget + 1) stage).Ends good := by
  obtain ⟨events, same⟩ := drive_onward steps home
  have begun : (Run.done () events).Ends fun _ => True := ⟨(), events, rfl, trivial⟩
  rw [same]
  exact begun.bind fun _ _ => ends

/-- A machine whose stages shrink with every step, as long as they keep some property, concludes in
a final stage that has the property. -/
theorem drive_ends {machine : Machine σ α} {home : Tape} {keeps : Stage σ α → Prop}
    (size : Stage σ α → Nat)
    (step : ∀ stage, keeps stage → ¬ machine.Final stage.state →
      ∃ next, machine.Steps stage next ∧ keeps next ∧ size next < size stage) :
    ∀ budget stage, keeps stage → size stage < budget →
      ∃ last, machine.Reaches stage last ∧ machine.Final last.state ∧ keeps last ∧
        (machine.drive home budget stage).Ends (· = machine.conclude home last) := by
  -- The budget is what the induction is on; the size of a stage only has to stay below it.
  intro budget
  induction budget with
  | zero =>
      intro stage _ enough
      omega
  | succ budget ih =>
      intro stage kept enough
      by_cases final : machine.Final stage.state
      · exact ⟨stage, .refl, final, kept, drive_final final home budget⟩
      · obtain ⟨next, steps, nextKept, smaller⟩ := step stage kept final
        obtain ⟨last, reaches, lastFinal, lastKept, ends⟩ := ih next nextKept (by omega)
        exact ⟨last, .head steps reaches, lastFinal, lastKept, drive_step steps ends⟩

theorem drive_done {machine : Machine σ α} {home : Tape} {budget : Nat} {stage : Stage σ α}
    {outcome : Outcome} {events : List Event}
    (done : machine.drive home budget stage = .done outcome events) :
    ∃ last, machine.Reaches stage last ∧ machine.Final last.state ∧
      outcome = machine.conclude home last := by
  induction budget generalizing stage events with
  | zero => cases done
  | succ budget ih =>
      by_cases final : machine.Final stage.state
      · obtain ⟨value, early, ended, concluded⟩ := drive_final final home budget
        cases ended.symm.trans done
        exact ⟨stage, .refl, final, concluded⟩
      · have notAccepting : stage.state ∉ machine.accepting := fun found => final (.inl found)
        have notRejecting : stage.state ∉ machine.rejecting := fun found => final (.inr found)
        simp only [drive, if_neg notAccepting, if_neg notRejecting] at done
        split at done
        next => cases done
        next step handled =>
          obtain ⟨next, early, late, stepped, followed, _⟩ :=
            (Run.bind_eq_done_iff _ _ _ _).mp done
          obtain ⟨_, _, later, _, ran, _⟩ := (Run.bind_eq_done_iff _ _ _ _).mp followed
          obtain ⟨last, reaches, lastFinal, concluded⟩ := ih ran
          exact ⟨last, .head ⟨final, step, early, handled, stepped⟩ reaches, lastFinal, concluded⟩

theorem drive_refines (early late : Machine σ α) (home : Tape)
    (same : late = { early with handler := late.handler })
    (handlers : ∀ state, Option.Rel (fun step later => ∀ tape gathered,
      Run.Refines (step tape gathered) (later tape gathered))
      (early.handler state) (late.handler state)) :
    ∀ budget stage, Run.Refines (early.drive home budget stage) (late.drive home budget stage) := by
  intro budget
  induction budget with
  | zero =>
      intro stage
      exact .of_fault _
  | succ budget ih =>
      intro stage
      have related := handlers stage.state
      rw [same] at ih ⊢
      simp only [drive]
      split
      · exact .refl _
      · split
        · exact .refl _
        · generalize early.handler stage.state = first at related ⊢
          generalize late.handler stage.state = second at related ⊢
          cases related with
          | none => exact .refl _
          | some refines =>
              apply Run.Refines.bind (refines stage.tape stage.gathered)
              intro next
              apply Run.Refines.bind_right
              intro _
              exact ih next

end Constituency.Machine
