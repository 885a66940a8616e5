import Constituency.Json
import Constituency.Tree

namespace Constituency

namespace Tree

def tagged (kind : String) (content : Json) : Json :=
  .object [(kind, content)]

mutual

/-- A tree as a JSON value: an object whose one key is the label of the topmost node. -/
def toJson : Tree → Json
  | token text => tagged "Dummy" (.text text)
  | word wordClass text =>
    tagged "Word" (.object [("class", .text wordClass.describe), ("text", .text text)])
  | coordination .and items => tagged "CompoundAnd" (.list (listToJson items))
  | coordination .or items => tagged "CompoundOr" (.list (listToJson items))
  | nounClause noun adjectives phrases =>
    tagged "NounClause" (.object [("noun", optionToJson noun),
      ("adjectives", .list (listToJson adjectives)), ("phrases", .list (listToJson phrases))])
  | sequence parts => tagged "Sequence" (.list (listToJson parts))
  | prepPhrase preposition object =>
    tagged "PrepPhrase" (.object [("preposition", toJson preposition), ("object", toJson object)])
  | verbObject verb object =>
    tagged "VerbObject" (.object [("verb", toJson verb), ("object", toJson object)])
  | statement subject predicate =>
    tagged "Statement" (.object [("subject", toJson subject), ("predicate", toJson predicate)])

def listToJson : List Tree → List Json
  | [] => []
  | tree :: trees => toJson tree :: listToJson trees

def optionToJson : Option Tree → Json
  | none => .null
  | some tree => toJson tree

end

end Tree

end Constituency
