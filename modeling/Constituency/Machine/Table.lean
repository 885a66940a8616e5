import Constituency.Pattern

/-!
Machines given by a table: for each state a list of arms, of which the first that applies is taken.
The grammar has none of its own; such machines come from outside, to be run on a tape.
-/

namespace Constituency

structure Arm where
  /-- What must match for the arm to be taken; an arm with no pattern is always taken. -/
  pattern : Option Pattern
  target : String
  keep : Bool

structure MachineTable where
  name : String
  start : String
  accepting : List String
  rejecting : List String
  states : List (String × List Arm)

namespace MachineTable

/-- The state of a machine that no arm leads out of. -/
def stuck : String := "Stuck"

def takeArm (config : Config) (tape : Tape) (gathered : List Tree) :
    List Arm → Run (Stage String (List Tree))
  | [] => pure ⟨stuck, tape, gathered⟩
  | arm :: arms =>
    match arm.pattern with
    | none => pure ⟨arm.target, tape, gathered⟩
    | some pattern => do
      match ← pattern.recognizer.recognize config tape with
      | .matched rest tree =>
        pure ⟨arm.target, rest, if arm.keep then gathered ++ [tree] else gathered⟩
      | .missed _ _ => takeArm config tape gathered arms

def machine (table : MachineTable) (config : Config) : Machine String (List Tree) where
  name := table.name
  start := table.start
  accepting := table.accepting
  rejecting := table.rejecting
  handler := fun state =>
    (table.states.lookup state).map fun arms tape gathered => takeArm config tape gathered arms
  finish := fun state gathered => .sequence (.token state :: gathered)
  stateName := id

/-- Runs the machine of a table. Where it goes next does not depend on what was gathered, so a run
that ends goes on from a state at most once for each place on the tape. -/
def run (table : MachineTable) (config : Config) (tape : Tape) : Run Outcome :=
  (table.machine config).run (table.states.length * (tape.length + 1) + 2) tape []

end MachineTable

end Constituency
