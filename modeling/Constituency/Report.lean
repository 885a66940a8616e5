import Constituency.Parse
import Constituency.Tree.Json

namespace Constituency.Report

inductive Ink
  | bold
  | dim
  | red
  | green
  | yellow
  | blue
  | cyan
  | gray
  deriving DecidableEq, Repr

def Ink.code : Ink → String
  | bold => "1"
  | dim => "2"
  | red => "31"
  | green => "32"
  | yellow => "33"
  | blue => "34"
  | cyan => "36"
  | gray => "90"

def paint (colour : Bool) (ink : Ink) (text : String) : String :=
  if colour then "\x1b[" ++ ink.code ++ "m" ++ text ++ "\x1b[0m" else text

def heading (colour : Bool) (title : String) : List String :=
  ["", paint colour .gray ("━━━ " ++ title ++ " ━━━")]

def indent (depth : Nat) : String :=
  String.ofList (List.replicate (2 * depth) ' ')

def leafLine (colour : Bool) (depth : Nat) (text kind : String) : String :=
  indent depth ++ paint colour .green text ++ " " ++ paint colour .dim ("(" ++ kind ++ ")")

def nodeLine (colour : Bool) (depth : Nat) : Tree → String
  | .token text => leafLine colour depth text "token"
  | .word wordClass text => leafLine colour depth text wordClass.describe
  | tree => indent depth ++ paint colour .blue tree.label

mutual

def outline (colour : Bool) (depth : Nat) : Tree → List String
  | tree@(.token _) => [nodeLine colour depth tree]
  | tree@(.word _ _) => [nodeLine colour depth tree]
  | tree@(.coordination _ items) =>
    nodeLine colour depth tree :: outlineList colour (depth + 1) items
  | tree@(.nounClause noun adjectives phrases) =>
    nodeLine colour depth tree ::
      (outlineList colour (depth + 1) adjectives ++ outlineOption colour (depth + 1) noun
        ++ outlineList colour (depth + 1) phrases)
  | tree@(.sequence parts) =>
    nodeLine colour depth tree :: outlineList colour (depth + 1) parts
  | tree@(.prepPhrase preposition object) =>
    nodeLine colour depth tree ::
      (outline colour (depth + 1) preposition ++ outline colour (depth + 1) object)
  | tree@(.verbObject verb object) =>
    nodeLine colour depth tree ::
      (outline colour (depth + 1) verb ++ outline colour (depth + 1) object)
  | tree@(.statement subject predicate) =>
    nodeLine colour depth tree ::
      (outline colour (depth + 1) subject ++ outline colour (depth + 1) predicate)

def outlineList (colour : Bool) (depth : Nat) : List Tree → List String
  | [] => []
  | tree :: trees => outline colour depth tree ++ outlineList colour depth trees

def outlineOption (colour : Bool) (depth : Nat) : Option Tree → List String
  | none => []
  | some tree => outline colour depth tree

end

theorem outlineList_eq_flatMap (colour : Bool) (depth : Nat) (trees : List Tree) :
    outlineList colour depth trees = trees.flatMap (outline colour depth) := by
  induction trees with
  | nil => rfl
  | cons tree trees ih => rw [outlineList, ih, List.flatMap_cons]

theorem outlineOption_eq_flatMap (colour : Bool) (depth : Nat) (tree : Option Tree) :
    outlineOption colour depth tree = tree.toList.flatMap (outline colour depth) := by
  cases tree with
  | none => rfl
  | some tree => simp [outlineOption]

theorem outline_eq_children (colour : Bool) (depth : Nat) (tree : Tree) :
    outline colour depth tree =
      nodeLine colour depth tree :: tree.children.flatMap (outline colour (depth + 1)) := by
  cases tree <;>
    simp [outline, Tree.children, outlineList_eq_flatMap, outlineOption_eq_flatMap]

def titleLines (colour : Bool) (parse : Parse) : List String :=
  ["", paint colour .bold (paint colour .cyan
    ("⚙  Parsing: \"" ++ Text.trim parse.text ++ "\" as " ++ parse.rule.name))]

def tokenLines (colour : Bool) (parse : Parse) : List String :=
  let read := parse.tokens.take parse.consumed
  let unread := parse.tokens.drop parse.consumed
  heading colour "Tokens" ++
    ["  " ++ paint colour .green (" ".intercalate read) ++ " " ++ paint colour .dim "│" ++ " " ++
      (if unread.isEmpty then paint colour .dim "(all consumed)"
       else paint colour .yellow (" ".intercalate unread))]

def outcomeLines (colour : Bool) (parse : Parse) : List String :=
  heading colour "Outcome" ++
    match parse.reason? with
    | some reason =>
      ["  " ++ paint colour .red "✗ no parse", "  " ++ paint colour .dim reason, "",
       paint colour .dim
        "  Tip: Set SYNTAGMA_LOG=syntagma=debug to see every rule that was tried"]
    | none =>
      if parse.complete then ["  " ++ paint colour .green "✓ parsed"]
      else
        let left := (parse.tokens.drop parse.consumed).length
        ["  " ++ paint colour .yellow "✓ parsed prefix" ++ " "
          ++ paint colour .dim ("(" ++ toString left ++ " tokens left)")]

def treeLines (colour : Bool) (parse : Parse) : List String :=
  match parse.tree? with
  | none => []
  | some tree =>
    heading colour "Tree" ++ ["  " ++ paint colour .bold tree.render] ++ outline colour 1 tree

/-- The report up to the heading for the time taken. -/
def lines (colour : Bool) (parse : Parse) : List String :=
  titleLines colour parse ++ tokenLines colour parse ++ outcomeLines colour parse
    ++ treeLines colour parse ++ heading colour "Timing"

def render (colour : Bool) (parse : Parse) : String :=
  String.join ((lines colour parse).map (· ++ "\n"))

def timing (colour : Bool) (nanoseconds : Nat) : String :=
  "  Total: " ++ paint colour .green (toString (nanoseconds / 1000) ++ "µs") ++ "\n\n"

def toJson (parse : Parse) : Json :=
  .object [
    ("text", .text parse.text),
    ("rule", .text parse.rule.name),
    ("success", .bool parse.success),
    ("complete", .bool parse.complete),
    ("consumed", .number parse.consumed),
    ("remaining", .list (parse.remaining.map .text)),
    ("message", Json.ofOption .text parse.reason?),
    ("node", Json.ofOption Tree.toJson parse.tree?),
    ("tree", Json.ofOption (fun tree => .text tree.render) parse.tree?)]

end Constituency.Report
