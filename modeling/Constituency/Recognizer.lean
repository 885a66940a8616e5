import Constituency.Config
import Constituency.Outcome

namespace Constituency

structure Recognizer where
  name : String
  recognize : Config → Tape → Run Outcome

namespace Recognizer

def search (config : Config) (tape : Tape) :
    List Recognizer → Run (Except (List String) (Tape × Tree))
  | [] => pure (.error [])
  | candidate :: others => do
    match ← candidate.recognize config tape with
    | .matched rest tree => pure (.ok (rest, tree))
    | .missed reason _ =>
      Run.emit (.missed candidate.name tape.position)
      match ← search config tape others with
      | .ok found => pure (.ok found)
      | .error reasons => pure (.error ((candidate.name ++ ": " ++ reason) :: reasons))

/-- Ordered choice: the first candidate that matches, even if a later one would read more. -/
def firstOf (candidates : List Recognizer) (config : Config) (tape : Tape) : Run Outcome := do
  match ← search config tape candidates with
  | .ok (rest, tree) => pure (.matched rest tree)
  | .error reasons =>
    pure (.missed ("no alternative matched [" ++ "; ".intercalate reasons ++ "]") tape)

def chain (config : Config) : List Recognizer → Tape → Run (Except String (Tape × List Tree))
  | [], tape => pure (.ok (tape, []))
  | step :: others, tape => do
    match ← step.recognize config tape with
    | .missed reason _ =>
      pure (.error
        (step.name ++ " failed at token " ++ toString tape.position ++ ": " ++ reason))
    | .matched rest tree =>
      match ← chain config others rest with
      | .error reason => pure (.error reason)
      | .ok (last, trees) => pure (.ok (last, tree :: trees))

/-- Sequence: every step must match, or nothing is read. -/
def inOrder (steps : List Recognizer) (config : Config) (tape : Tape) : Run Outcome := do
  match ← chain config steps tape with
  | .ok (rest, trees) => pure (.matched rest (.sequence trees))
  | .error reason => pure (.missed reason tape)

end Recognizer

end Constituency
