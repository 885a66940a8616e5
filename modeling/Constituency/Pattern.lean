import Constituency.Grammar

namespace Constituency

inductive Pattern
  | rule (called : Rule)
  | literal (token : String)
  | firstOf (candidates : List Pattern)
  | inOrder (steps : List Pattern)
  /-- A list rule with its item rule, and with flags of its own if they are given. -/
  | list (called item : Rule) (flags : Option ListFlags)
  deriving Repr

namespace Pattern

def matchLiteral (expected : String) (tape : Tape) : Outcome :=
  match tape.read with
  | .ok (token, rest) =>
    if token = expected then .matched rest (.token token)
    else .missed ("expected " ++ expected) tape
  | .error _ => .missed ("expected " ++ expected) tape

def listConfig (item : Rule) (flags : Option ListFlags) (config : Config) : Config :=
  let items := config.withItemRule item
  match flags with
  | some own => items.withFlags own
  | none => items

mutual

def recognizer : Pattern → Recognizer
  | .rule called => called.recognizer
  | .literal token => ⟨"Literal", fun _ tape => pure (matchLiteral token tape)⟩
  | .firstOf candidates => ⟨"FirstOf", Recognizer.firstOf (recognizers candidates)⟩
  | .inOrder steps => ⟨"InOrder", Recognizer.inOrder (recognizers steps)⟩
  | .list called item flags =>
    ⟨called.name, fun config tape => called.recognize (listConfig item flags config) tape⟩

def recognizers : List Pattern → List Recognizer
  | [] => []
  | pattern :: patterns => recognizer pattern :: recognizers patterns

end

end Pattern

end Constituency
