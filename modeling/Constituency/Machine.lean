import Constituency.Outcome
import Constituency.Trace

namespace Constituency

structure Stage (σ α : Type) where
  state : σ
  tape : Tape
  gathered : α

structure Machine (σ α : Type) where
  name : String
  start : σ
  accepting : List σ
  rejecting : List σ
  handler : σ → Option (Tape → α → Run (Stage σ α))
  finish : σ → α → Tree
  stateName : σ → String

namespace Machine

variable {σ α : Type} [DecidableEq σ]

/-- Runs from a stage on, through at most `budget` of them. A state that both accepts and rejects
accepts; a rejecting machine gives back the tape `home` that its caller had. -/
def drive (machine : Machine σ α) (home : Tape) : Nat → Stage σ α → Run Outcome
  | 0, _ => .fault .exhausted
  | budget + 1, ⟨state, tape, gathered⟩ =>
    if state ∈ machine.accepting then do
      Run.emit (.ended machine.name (machine.stateName state) tape.position true)
      pure (.matched tape (machine.finish state gathered))
    else if state ∈ machine.rejecting then do
      Run.emit (.ended machine.name (machine.stateName state) tape.position false)
      pure (.missed (machine.name ++ " stopped in state " ++ machine.stateName state
        ++ " at token " ++ toString tape.position) home)
    else
      match machine.handler state with
      | none => .fault (.unhandledState machine.name (machine.stateName state))
      | some step => do
        let next ← step tape gathered
        Run.emit (.stepped machine.name (machine.stateName state) (machine.stateName next.state)
          next.tape.position)
        drive machine home budget next

def run (machine : Machine σ α) (budget : Nat) (tape : Tape) (gathered : α) : Run Outcome :=
  machine.drive tape budget ⟨machine.start, tape, gathered⟩

end Machine

end Constituency
