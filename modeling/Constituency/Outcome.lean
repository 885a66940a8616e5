import Constituency.Tape
import Constituency.Tree

namespace Constituency

inductive Outcome
  /-- The rule matched; `rest` stands just after what it read. -/
  | matched (rest : Tape) (tree : Tree)
  /-- The rule did not match; `tape` is the one it was given. -/
  | missed (reason : String) (tape : Tape)

namespace Outcome

def unimplemented (name : String) (tape : Tape) : Outcome :=
  .missed (name ++ " has not yet been implemented") tape

def succeeded : Outcome → Bool
  | matched _ _ => true
  | missed _ _ => false

def tape : Outcome → Tape
  | matched rest _ => rest
  | missed _ tape => tape

def tree? : Outcome → Option Tree
  | matched _ tree => some tree
  | missed _ _ => none

def reason? : Outcome → Option String
  | matched _ _ => none
  | missed reason _ => some reason

def mapTree (change : Tree → Tree) : Outcome → Outcome
  | matched rest tree => .matched rest (change tree)
  | missed reason tape => .missed reason tape

end Outcome

end Constituency
